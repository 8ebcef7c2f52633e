import Assay.Text.Digest
import Assay.Utility.Copying

/-!
Digests of files, and lists of them that are checked.
-/

namespace Assay.Utility

open Text (Digest.hexadecimal)

def codesOf (content : ByteArray) : List Nat := content.toList.map UInt8.toNat

structure DigestKind where
  title : String
  digits : Nat
  digest : List Nat → List Nat
  flexible : Bool := false

namespace DigestKind

def md5 : DigestKind := ⟨"MD5", 32, Text.Digest.md5, false⟩

def sha1 : DigestKind := ⟨"SHA1", 40, Text.Digest.sha1, false⟩

def sha224 : DigestKind := ⟨"SHA224", 56, Text.Digest.sha224, false⟩

def sha256 : DigestKind := ⟨"SHA256", 64, Text.Digest.sha256, false⟩

def sha384 : DigestKind := ⟨"SHA384", 96, Text.Digest.sha384, false⟩

def sha512 : DigestKind := ⟨"SHA512", 128, Text.Digest.sha512, false⟩

def blake (bytes : Nat) : DigestKind :=
  ⟨if bytes = 64 then "BLAKE2b" else "BLAKE2b-" ++ toString (8 * bytes), 2 * bytes, Text.Blake.digest bytes, true⟩

def text (kind : DigestKind) (content : ByteArray) : String := Digest.hexadecimal (kind.digest (codesOf content))

end DigestKind

/-- A name of a file on one line. Behind a backslash at the front of the line, line ends and backslashes in it are
escaped. -/
def oneLine (file : String) : String × String :=
  if file.toList.any fun c => c = '\n' ∨ c = '\\' then
    ("\\", String.ofList (file.toList.flatMap fun c =>
      if c = '\n' then ['\\', 'n'] else if c = '\\' then ['\\', '\\'] else [c]))
  else ("", file)

def unescaped? : List Char → Option (List Char)
  | '\\' :: 'n' :: rest => (unescaped? rest).map ('\n' :: ·)
  | '\\' :: '\\' :: rest => (unescaped? rest).map ('\\' :: ·)
  | '\\' :: _ => none
  | c :: rest => (unescaped? rest).map (c :: ·)
  | [] => some []

def DigestKind.fits (kind : DigestKind) (digits : List Char) : Bool :=
  (digits.all fun c => Text.isDigitIn 16 c)
    && if kind.flexible then digits.length % 2 = 0 && 0 < digits.length && digits.length ≤ 128
      else digits.length = kind.digits

def DigestKind.entry? (kind : DigestKind) (line : List Char) : Option (List Char × List Char) :=
  let trimmed := line.dropWhile isGap
  let (escaped, body) : Bool × List Char := match trimmed with
    | '\\' :: rest => (true, rest)
    | rest => (false, rest)
  let name := fun text : List Char => if escaped then unescaped? text else some text
  let title := kind.title.toList.takeWhile (· ≠ '-')
  if title.isPrefixOf body ∧ ((body.drop title.length).dropWhile fun c => c ≠ '(' ∧ c ≠ ' ').head?.any fun _ => true then
    let behind := (body.drop title.length).dropWhile fun c => c = '-' || c.isDigit
    match (if behind.head? = some ' ' then behind.drop 1 else behind) with
    | '(' :: rest =>
      let (digits, before) := (rest.reverse.takeWhile fun c => c ≠ ')', (rest.reverse.dropWhile (· ≠ ')')).drop 1)
      match (digits.reverse.dropWhile isGap) with
      | '=' :: value =>
        let digits := value.dropWhile isGap
        if kind.fits digits then (name before.reverse).map fun file => (digits, file) else none
      | _ => none
    | _ => none
  else
    let digits := body.takeWhile fun c => Text.isDigitIn 16 c
    match body.drop digits.length with
    | gap :: rest =>
      if !isGap gap || !kind.fits digits then none
      else
        match rest with
        | c :: file =>
          if (c = ' ' ∨ c = '*') ∧ file ≠ [] then (name file).map fun file => (digits, file)
          else (name rest).map fun file => (digits, file)
        | [] => none
    | [] => none
where
  isGap (c : Char) : Bool := c = ' ' || c = '\t'

structure Checking where
  quiet : Bool := false
  silent : Bool := false
  warns : Bool := false
  strict : Bool := false
  ignoresMissing : Bool := false

def Checking.run (checking : Checking) (kind : DigestKind) (list : String) : Utility Unit := do
  let shown := if list = "-" then "'standard input'" else named list
  match ← contentOf list with
  | .error fault =>
    complain (if fault = .isAFolder then named list ++ ": read error"
      else named list ++ ": " ++ fault.message)
  | .ok content =>
    let mut number := 0
    let mut formatted := 0
    let mut broken := 0
    let mut wrong := 0
    let mut missing := 0
    let mut matched := 0
    for line in linesOf (Octets.chars content) do
      number := number + 1
      let body := if line.getLast? = some '\r' then line.dropLast else line
      if line.head? ≠ some '#' && body ≠ [] then
        match kind.entry? body with
        | none =>
          broken := broken + 1
          if checking.warns then
            warn (shown ++ ": " ++ toString number ++ ": improperly formatted " ++ kind.title ++ " checksum line")
        | some (wanted, nameChars) =>
          formatted := formatted + 1
          let file := String.ofList nameChars
          let (mark, name) := oneLine file
          let told := fun result : String => mark ++ name ++ ": " ++ result ++ "\n"
          match ← contentOf file with
          | .error fault =>
            if !(checking.ignoresMissing && fault = .notFound) then
              warn (named file ++ ": " ++ fault.message)
              missing := missing + 1
              if !checking.silent then emitText (told "FAILED open or read")
          | .ok found =>
            let digits := if kind.flexible then
                Digest.hexadecimal (Text.Blake.digest (wanted.length / 2) (codesOf found))
              else kind.text found
            if digits.toList = wanted.map Char.toLower then
              matched := matched + 1
              if !checking.quiet && !checking.silent then emitText (told "OK")
            else
              wrong := wrong + 1
              if !checking.silent then emitText (told "FAILED")
    let counted := fun (count : Nat) (one many : String) => toString count ++ " " ++ (if count = 1 then one else many)
    if formatted = 0 then complain (shown ++ ": no properly formatted checksum lines found")
    else if !checking.silent then
      if 0 < broken then
        warn ("WARNING: " ++ counted broken "line is improperly formatted" "lines are improperly formatted")
      if 0 < missing then
        warn ("WARNING: " ++ counted missing "listed file could not be read" "listed files could not be read")
      if 0 < wrong then
        warn ("WARNING: " ++ counted wrong "computed checksum did NOT match" "computed checksums did NOT match")
      if checking.ignoresMissing && matched = 0 then warn (shown ++ ": no file was verified")
    if 0 < wrong + missing || (checking.strict && 0 < broken) || matched = 0 then
      modify fun console => { console with status := 1 }

def digestOptions : Options where
  flags := "bctwz"
  words := [("binary", "b", false), ("check", "c", false), ("text", "t", false), ("tag", "tag", false),
    ("quiet", "quiet", false), ("status", "status", false), ("warn", "w", false), ("zero", "z", false),
    ("strict", "strict", false), ("ignore-missing", "ignore", false)]

def tellDigests (kind : DigestKind) (tagged : Bool) (found : Found) : Utility Unit := do
  let checks := found.has "c"
  if found.has "tag" && found.last? ["tag", "t", "b"] = some "t" then misuse "--tag does not support --text mode"
  if checks then
    if found.has "z" then misuse "the --zero option is not supported when verifying checksums"
    if found.has "tag" then misuse "the --tag option is meaningless when verifying checksums"
    if found.has "b" || found.has "t" then
      misuse "the --binary and --text options are meaningless when verifying checksums"
  else
    for (key, word) in [("ignore", "ignore-missing"), ("status", "status"), ("w", "warn"), ("quiet", "quiet"),
        ("strict", "strict")] do
      if found.has key then
        misuse ("the --" ++ word ++ " option is meaningful only when verifying checksums")
  let last := found.last? ["status", "w", "quiet"]
  let checking : Checking :=
    { quiet := last = some "quiet", silent := last = some "status", warns := last = some "w"
      strict := found.has "strict", ignoresMissing := found.has "ignore" }
  let files := if found.operands.isEmpty then ["-"] else found.operands
  for file in files do
    if checks then checking.run kind file
    else
      match ← contentOf file with
      | .error fault => complain (named file ++ ": " ++ fault.message)
      | .ok content =>
        let digits := kind.text content
        let (mark, name) := if found.has "z" then ("", file) else oneLine file
        let ending := if found.has "z" then "\x00" else "\n"
        if tagged then emitText (mark ++ kind.title ++ " (" ++ name ++ ") = " ++ digits ++ ending)
        else emitText (mark ++ digits ++ (if found.has "b" then " *" else "  ") ++ name ++ ending)
  if files.contains "-" then closeInput "standard input"

def digestProgram (kind : DigestKind) : Program := program do
  let found ← options digestOptions
  tellDigests kind (found.has "tag") found

def md5sum : Program := digestProgram .md5

def sha1sum : Program := digestProgram .sha1

def sha224sum : Program := digestProgram .sha224

def sha256sum : Program := digestProgram .sha256

def sha384sum : Program := digestProgram .sha384

def sha512sum : Program := digestProgram .sha512

def digestBytes (found : Found) : Utility Nat := do
  match found.value? "l" with
  | none => return 64
  | some text =>
    match natural? text with
    | none => fail ("invalid length: " ++ cited text)
    | some bits =>
      if 512 < bits then
        warn ("invalid length: " ++ cited text)
        fail ("maximum digest length for " ++ cited "BLAKE2b" ++ " is 512 bits")
      if bits % 8 ≠ 0 then
        warn ("invalid length: " ++ cited text)
        fail "length is not a multiple of 8"
      return if bits = 0 then 64 else bits / 8

def b2sum : Program := program do
  let found ← options
    { digestOptions with valued := "l", words := digestOptions.words ++ [("length", "l", true)] }
  tellDigests (.blake (← digestBytes found)) (found.has "tag") found

inductive SumKind
  | remainder
  | turning
  | plain
deriving DecidableEq

def SumKind.line (kind : SumKind) (codes : List Nat) : String :=
  match kind with
  | .remainder => toString (Text.Digest.remainder codes) ++ " " ++ toString codes.length
  | .turning =>
    let digits := Nat.toDigits 10 (Text.Digest.turnedSum codes)
    String.ofList (List.replicate (5 - digits.length) '0' ++ digits) ++ " "
      ++ String.ofList (rightAligned 5 (digitsOf ((codes.length + 1023) / 1024)))
  | .plain =>
    let total := codes.foldl (· + ·) 0 % Nat.pow 2 32
    let folded := total % 65536 + total / 65536
    toString (folded % 65536 + folded / 65536) ++ " " ++ toString ((codes.length + 511) / 512)

def tellSums (kind : SumKind) (found : Found) : Utility Unit := do
  let files := if found.operands.isEmpty then ["-"] else found.operands
  for file in files do
    match ← contentOf file with
    | .error fault => complain (named file ++ ": " ++ fault.message)
    | .ok content =>
      emitText (kind.line (codesOf content) ++ (if found.operands.isEmpty then "\n" else " " ++ file ++ "\n"))
  if files.contains "-" then closeInput "standard input"

def sumBlocks : Program := program do
  let found ← options { flags := "rs", words := [("sysv", "s", false)] }
  tellSums (if found.last? ["r", "s"] = some "s" then .plain else .turning) found

def cksum : Program := program do
  let found ← options
    { digestOptions with
      valued := "al"
      words := digestOptions.words ++ [("algorithm", "a", true), ("length", "l", true), ("untagged", "untagged", false)] }
  let kinds : List (List String × (SumKind ⊕ DigestKind)) :=
    [(["bsd"], .inl .turning), (["sysv"], .inl .plain), (["crc"], .inl .remainder), (["md5"], .inr .md5),
     (["sha1"], .inr .sha1), (["sha224"], .inr .sha224), (["sha256"], .inr .sha256), (["sha384"], .inr .sha384),
     (["sha512"], .inr .sha512), (["blake2b"], .inr (.blake 64))]
  let numbered : List (List String × Nat) :=
    (kinds.map Prod.fst).zip (List.range kinds.length) ++ [(["sm3"], kinds.length)]
  let kind ← match found.value? "a" with
    | none => pure (.inl SumKind.remainder)
    | some word =>
      let number ← choice "--algorithm" numbered word
      pure ((kinds[number]?.map Prod.snd).getD (.inl .remainder))
  match kind with
  | .inl kind =>
    if found.has "c" then fail "--check is not supported with --algorithm=\x7bbsd,sysv,crc\x7d"
    tellSums kind found
  | .inr kind =>
    let sized ← if kind.flexible then do pure (DigestKind.blake (← digestBytes found)) else pure kind
    tellDigests sized (!found.has "untagged") found

end Assay.Utility
