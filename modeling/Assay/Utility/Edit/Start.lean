import Assay.Utility.Edit.Reader
import Assay.Utility.Edit.Run

/-!
How the editor of texts is called.
-/

namespace Assay.Utility

open Edit

/-- Options of the editor, with the endings for old files apart from the other letters. With `isValue` the first
argument is what an option before it takes. -/
def withPlaces (isValue : Bool) : List String → List String
  | [] => []
  | text :: rest =>
    if isValue then text :: withPlaces false rest
    else if text = "--" then text :: rest
    else
      match text.toList with
      | '-' :: letters =>
        let front := letters.takeWhile fun c => "bnrEsuz".toList.contains c
        match letters.drop front.length with
        | 'i' :: ending =>
          (if front.isEmpty then [] else ["-" ++ String.ofList front])
            ++ ("--in-place=" ++ String.ofList ending) :: withPlaces false rest
        | [c] => text :: withPlaces ("efl".toList.contains c) rest
        | _ => text :: withPlaces false rest
      | _ => text :: withPlaces false rest

def editorUse (name : String) : String :=
  let home := fun place : String => "https:" ++ "//www.gnu.org/" ++ place
  "Usage: " ++ name ++ " [OPTION]... \x7bscript-only-if-no-other-script\x7d [input-file]...\n\n"
    ++ "  -n, --quiet, --silent\n                 suppress automatic printing of pattern space\n"
    ++ "      --debug\n                 annotate program execution\n"
    ++ "  -e script, --expression=script\n                 add the script to the commands to be executed\n"
    ++ "  -f script-file, --file=script-file\n"
    ++ "                 add the contents of script-file to the commands to be executed\n"
    ++ "  --follow-symlinks\n                 follow symlinks when processing in place\n"
    ++ "  -i[SUFFIX], --in-place[=SUFFIX]\n                 edit files in place (makes backup if SUFFIX supplied)\n"
    ++ "  -l N, --line-length=N\n                 specify the desired line-wrap length for the \x60l' command\n"
    ++ "  --posix\n                 disable all GNU extensions.\n"
    ++ "  -E, -r, --regexp-extended\n                 use extended regular expressions in the script\n"
    ++ "                 (for portability use POSIX -E).\n"
    ++ "  -s, --separate\n                 consider files as separate rather than as a single,\n"
    ++ "                 continuous long stream.\n"
    ++ "      --sandbox\n                 operate in sandbox mode (disable e/r/w commands).\n"
    ++ "  -u, --unbuffered\n                 load minimal amounts of data from the input files and flush\n"
    ++ "                 the output buffers more often\n"
    ++ "  -z, --null-data\n                 separate lines by NUL characters\n"
    ++ "      --help     display this help and exit\n"
    ++ "      --version  output version information and exit\n\n"
    ++ "If no -e, --expression, -f, or --file option is given, then the first\n"
    ++ "non-option argument is taken as the sed script to interpret.  All\n"
    ++ "remaining arguments are names of input files; if no input files are\n"
    ++ "specified, then the standard input is read.\n\n"
    ++ "GNU sed home page: <" ++ home "software/sed/" ++ ">.\n"
    ++ "General help using GNU software: <" ++ home "gethelp/" ++ ">.\n"

def editorOptions : Options :=
  { flags := "bnErsuz", valued := "eflV", lenient := ["in-place"], manual := some editorUse
    words :=
      [("binary", "b", false), ("quiet", "n", false), ("silent", "n", false), ("expression", "e", true),
       ("file", "f", true), ("in-place", "i", false), ("line-length", "l", true), ("regexp-extended", "E", false),
       ("sandbox", "sandbox", false), ("separate", "s", false), ("unbuffered", "u", false), ("null-data", "z", false),
       ("zero-terminated", "z", false), ("posix", "posix", false), ("follow-symlinks", "follow", false),
       ("debug", "debug", false), ("help", "help", false), ("version", "version", false)] }

def editorChunks : List (String × String) → Utility (List Chunk)
  | [] => return []
  | ("e", text) :: rest => return { text := text.toList } :: (← editorChunks rest)
  | ("f", file) :: rest => do
    match ← contentOf (if file = "/dev/stdin" then "-" else file) with
    | .ok content => return { text := Octets.chars content, file := some file } :: (← editorChunks rest)
    | .error fault => fail ("couldn't open file " ++ file ++ ": " ++ fault.message) 4
  | _ :: rest => editorChunks rest

def spotName (chunks : List Chunk) (spot : Edit.Spot) : String :=
  match chunks[spot.chunk]? with
  | none => ""
  | some chunk =>
    match chunk.file with
    | some file =>
      "file " ++ file ++ " line " ++ toString (1 + (chunk.text.take spot.used).count '\n')
    | none =>
      let number := ((chunks.take (spot.chunk + 1)).filter fun other => other.file.isNone).length
      "-e expression #" ++ toString number ++ ", char " ++ toString (if spot.exact then spot.used else 0)

/-- The name of a file that is kept: the ending with the name of the new file in it, or behind that name. -/
def keptName (ending file : String) : String :=
  if ending.toList.contains '*' then ending.replace "*" file else file ++ ending

def keepOld (ending file : String) (source : Location) : Utility Unit := do
  let refuse := fun fault : FileFault => fail ("cannot rename " ++ file ++ ": " ++ fault.message) 4
  match (← tree).locate (← folder) false (path (keptName ending file)) with
  | .ok (.vacant target false) => ask (.move source target)
  | .ok (.present target (.file ..)) | .ok (.present target (.link _)) => ask (.move source target)
  | .ok (.present _ .folder) => refuse .isAFolder
  | .ok (.present _ _) => refuse .denied
  | .ok (.vacant _ true) => refuse .notAFolder
  | .error fault => refuse fault

def editFile (setup : Setup) (ending : String) (follows : Bool) (file : String) (before : Edition) :
    Utility (Option Nat × Edition) := do
  match (← tree).locate (← folder) true (path file) with
  | .ok (.present _ (.file serial content runs)) =>
    let mode := ((← tree).traitsOf [] (.file serial content runs)).mode
    let place := (← tree).locate (← folder) follows (path file)
    let start := { before with feed := { files := [file] }, replacement := some .empty, midLine := false }
    let (status, after) ← ((Editing.cycle Process.manySteps false).run setup).run start
    ask (.setChannels ((← ask .channels).drop Editing.sourceNumber))
    match place with
    | .ok (.present location entry) =>
      if ending ≠ "" then keepOld ending file location
      let made := after.replacement.getD .empty
      let kind : Bool := match entry with
        | .link _ => false
        | _ => true
      let _ ← ask (.change fun tree =>
        let cleared : FileTree := if kind then tree else
          { tree with traits := tree.traits.filter (·.1 ≠ FileTree.bearerOf location entry) }
        let placed := cleared.putFileOf location made 0o777
        match placed.entry? location with
        | some entry => .ok (placed.setMode location entry mode)
        | none => .ok placed)
    | _ => pure ()
    return (status, after)
  | .ok (.present ..) => fail ("couldn't edit " ++ file ++ ": not a regular file") 4
  | .ok (.vacant _ true) =>
    complain ("can't read " ++ file ++ ": " ++ FileFault.notAFolder.message) 2
    return (none, before)
  | .ok (.vacant ..) =>
    complain ("can't read " ++ file ++ ": " ++ FileFault.notFound.message) 2
    return (none, before)
  | .error fault =>
    complain ("can't read " ++ file ++ ": " ++ fault.message) 2
    return (none, before)

def editFiles (setup : Setup) (ending : String) (follows : Bool) : List String → Edition → Utility (Option Nat)
  | [], _ => return none
  | file :: rest, edition => do
    let (status, after) ← editFile setup ending follows file edition
    if status.isSome then return status
    editFiles setup ending follows rest after

def openTargets (files : List String) : Utility Unit := do
  for (name, number) in files.zip (List.range files.length) do
    match ← ask (.openFile (path name) .write (Editing.firstTarget + number)) with
    | .ok () => pure ()
    | .error fault => fail ("couldn't open file " ++ name ++ ": " ++ fault.message) 4

def sed : Program := starting fun become => do
  waiting
  losing fun fault =>
    ((if fault = .badChannel then "couldn't close stdout: " else "couldn't flush stdout: ") ++ fault.message, 4)
  let given := withPlaces false (← arguments)
  let found ← scanArguments editorOptions (given.length + 1) given
  let name ← name
  match found.options.map Prod.fst |>.find? fun key => key = "help" || key = "version" with
  | some "help" => emitText (editorUse name)
  | some _ => emitText "sed\n"
  | none =>
    let written ← editorChunks found.options
    let (chunks, files) ← match written, found.operands with
      | [], [] => do
        say (editorUse name)
        throw 1
      | [], first :: rest => pure ([({ text := first.toList } : Chunk)], rest)
      | _, files => pure (written, files)
    let wide ← spellsWide
    let mark := if found.has "z" then '\x00' else '\n'
    let plain := found.has "posix"
    let manner : Manner :=
      { extended := found.has "E" || found.has "r", plain, guarded := found.has "sandbox", wide, mark }
    match Script.read manner chunks with
    | .error fault =>
      match fault.spot with
      | none => fail fault.message fault.status
      | some spot => fail (spotName chunks spot ++ ": " ++ fault.message) fault.status
    | .ok script =>
      openTargets script.files
      let front := (chunks.head?.map Chunk.text).getD []
      let last := chunks.length - 1
      let ends := ((chunks[last]?).map Chunk.text).getD []
      let setup : Setup :=
        { script, become, plain, wide, mark, prompt := found.has "u"
          quiet := found.has "n" || front.take 2 = ['#', 'n']
          separate := found.has "s" || found.has "i"
          width := ((found.value? "l").bind natural?).getD (if found.has "l" then 0 else 70)
          place := spotName chunks { chunk := last, used := ends.length, exact := false } }
      let start : Edition := { ranges := script.startRanges }
      let status ← match found.value? "i" with
        | some ending => do
          if files.isEmpty then fail "no input files" 4
          editFiles setup ending (found.has "follow") files start
        | none => do
          let (status, _) ← ((Editing.cycle Process.manySteps false).run setup).run
            { start with feed := { files := if files.isEmpty then ["-"] else files } }
          pure status
      match status with
      | some code => modify fun console => { console with status := if console.status = 0 then code else console.status }
      | none => pure ()

end Assay.Utility
