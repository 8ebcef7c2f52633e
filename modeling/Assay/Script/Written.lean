import Assay.Script.Source

/-!
Commands written out: the text of a function as it is shown, and of a command that is at hand. Words stand as
they were written; all else is laid out anew, each command of a function on a line of its own.
-/

namespace Assay.Script

structure Writing where
  text : List Char := []
  margin : Nat := 0
  glued : Nat := 0
  inside : Bool := false
  joining : Nat := 0
  waiting : List String := []
  afterDocuments : Bool := false

namespace Writing

abbrev Writer := StateM Writing Unit

def put (text : String) : Writer := modify fun writing => { writing with text := text.toList.reverse ++ writing.text }

def step : Nat := 4

def blanks : Writer := do put (String.ofList (List.replicate (← get).margin ' '))

def lineOf (text : String) : Writer := do
  put "\n"
  blanks
  put text

def shifted (part : Writer) : Writer := do
  modify fun writing => { writing with margin := writing.margin + step }
  part
  modify fun writing => { writing with margin := writing.margin - step }

def glue : Writer := modify fun writing => { writing with glued := writing.glued + 1 }

def close : Writer := do
  match (← get).text.head? with
  | some '&' | some '\n' => return
  | _ => put ";"

def documents (texts : List String) : Writer := do
  put ("\n" ++ String.join texts)
  modify fun writing => { writing with afterDocuments := true }

def sign (text : String) : Writer := do
  let shows := text ≠ "" && text ≠ ";"
  if shows then put text
  let waiting := (← get).waiting
  if !waiting.isEmpty then
    documents waiting
    if shows then put " "
  modify fun writing => { writing with waiting := [] }

def settle : Writer := do if !(← get).waiting.isEmpty then sign ""

def channelText (redirect : Redirect) (usual : Nat) : String :=
  if redirect.holder ≠ "" then "\x7b" ++ redirect.holder ++ "\x7d"
  else if redirect.channel = usual then "" else toString redirect.channel

def redirectText (redirect : Redirect) : String :=
  let led := fun (usual : Nat) (mark : String) => channelText redirect usual ++ mark ++ redirect.written
  match redirect.direction with
  | .read => led 0 "< "
  | .write => led 1 "> "
  | .overwrite => led 1 ">| "
  | .append => led 1 ">> "
  | .readWrite => led 1 "<> "
  | .document _ => led 0 "<<"
  | .line => led 0 "<<< "
  | .writeBoth => "&> " ++ redirect.written
  | .appendBoth => "&>> " ++ redirect.written
  | .duplicate =>
    let first := redirect.written.toList.head?
    if redirect.channel = 1 && redirect.holder = "" && first ≠ some '-' && first ≠ some '$'
        && !(first.map Char.isDigit).getD false then "&> " ++ redirect.written
    else led 1000 ">&"

section

variable (documentOf : Nat → Document)

/-- Redirections behind a command. The texts of their documents follow, or wait for the next sign. -/
def redirections (redirects : List Redirect) : Writer := do
  modify fun writing => { writing with afterDocuments := false }
  put (" ".intercalate (redirects.map redirectText))
  let texts := redirects.filterMap fun redirect =>
    match redirect.direction with
    | .document id => some (documentOf id).written
    | _ => none
  let shown := texts.map fun text => if text.toList.getLast? = some '\n' then text else text ++ "\n"
  if !shown.isEmpty then
    if (← get).joining > 0 then modify fun writing => { writing with waiting := shown }
    else documents shown

def behind (redirects : List Redirect) : Writer := do
  if !redirects.isEmpty then
    put " "
    redirections documentOf redirects

def conditionText : Condition → String
  | .unary operator _ written => if operator = "" then written else operator ++ " " ++ written
  | .binary operator _ _ written other => written ++ " " ++ operator ++ " " ++ other
  | .negation inner => "! " ++ conditionText inner
  | .enclosed inner => "( " ++ conditionText inner ++ " )"
  | .both first second => conditionText first ++ " && " ++ conditionText second
  | .either first second => conditionText first ++ " || " ++ conditionText second

def joined (part : Writer) : Writer := do
  modify fun writing => { writing with joining := writing.joining + 1 }
  part
  settle
  modify fun writing => { writing with joining := writing.joining - 1 }

def bodyUpTo (word : String) (body : Writer) : Writer := do
  shifted do
    body
    settle
  close
  lineOf word

variable (self : Command → Writer)

def definition (body : Command) : Writer := do
  let (content, redirects) := match body with
    | .redirected _ (.group content) redirects => (content, redirects)
    | .group content => (content, [])
    | other => (other, [])
  put "\x7b \n"
  let before := (← get).inside
  modify fun writing => { writing with inside := true }
  shifted do
    self content
    settle
  modify fun writing => { writing with inside := before }
  if redirects.isEmpty then lineOf "\x7d"
  else
    lineOf "\x7d "
    redirections documentOf redirects

def sequence (first second : Command) : Writer := joined do
  glue
  self first
  if (← get).text.head? = some '&' && (← get).waiting.isEmpty then
    put " "
    glue
  else
    if (← get).waiting.isEmpty then
      if (← get).afterDocuments then modify fun writing => { writing with afterDocuments := false } else put ";"
    else sign (if (← get).inside then "" else ";")
    if (← get).inside then put "\n"
    else
      put " "
      glue
  self second

def pair (text : String) (first second : Command) : Writer := joined do
  glue
  self first
  sign text
  glue
  self second

def stages : List Command → Writer
  | [] => return
  | [only] => do
    glue
    self only
  | first :: rest => do
    glue
    self first
    sign " |"
    put " "
    stages rest

def arms : List Arm → Writer
  | [] => return
  | .mk _ shown body onward :: rest => do
    lineOf ""
    put (shown ++ ")\n")
    shifted do self body
    settle
    lineOf (match onward with
      | .stops => ";;"
      | .falls => ";&"
      | .looks => ";;&")
    arms rest

def loop (head : String) (body : Command) : Writer := do
  put head
  lineOf "do\n"
  bodyUpTo "done" (self body)

def compose (command : Command) : Writer := do
  match command with
  | .empty => return
  | .simple _ _ _ redirects shown =>
    put shown
    if shown = "" then redirections documentOf redirects else behind documentOf redirects
  | .sequence first second => sequence self first second
  | .both first second => pair self " && " first second
  | .either first second => pair self " || " first second
  | .negated body =>
    put "! "
    glue
    self body
  | .timed body =>
    put "time "
    glue
    self body
  | .pipeline _ several => joined (stages self several)
  | .background _ body => joined do
    glue
    self body
    sign " &"
  | .partner _ name body =>
    put ("coproc " ++ name ++ " ")
    glue
    self body
  | .subshell _ body redirects =>
    put "( "
    glue
    self body
    settle
    put " )"
    behind documentOf redirects
  | .redirected _ body redirects =>
    glue
    self body
    behind documentOf redirects
  | .group body =>
    put "\x7b "
    if (← get).inside then
      put "\n"
      shifted do
        self body
        settle
        put "\n"
      blanks
    else
      glue
      self body
      settle
      close
      put " "
    put "\x7d"
  | .branch test yes no =>
    put "if "
    glue
    self test
    close
    put " then\n"
    shifted do
      self yes
      settle
    match no with
    | .empty => pure ()
    | _ =>
      close
      lineOf "else\n"
      shifted do
        self no
        settle
    close
    lineOf "fi"
  | .loop whileSucceeding test body =>
    put (if whileSucceeding then "while " else "until ")
    glue
    self test
    settle
    close
    put " do\n"
    bodyUpTo "done" (self body)
  | .each _ name shown _ body => loop self ("for " ++ name ++ " in " ++ shown ++ ";") body
  | .menu _ name shown _ body => loop self ("select " ++ name ++ " in " ++ shown ++ ";") body
  | .choice _ shown _ list =>
    put ("case " ++ shown ++ " in ")
    shifted (arms self list)
    lineOf "esac"
  | .define _ name body =>
    put ("function " ++ name ++ " () \n")
    blanks
    definition documentOf self body
  | .conditional _ condition => put ("[[ " ++ conditionText condition ++ " ]]")
  | .sum _ _ shown => put ("((" ++ shown ++ "))")
  | .counting _ _ _ _ shown body => loop self ("for ((" ++ shown ++ "))") body

/-- Writes a command; the number bounds how deep commands stand inside others. -/
def command : Nat → Command → Writer
  | 0, _ => return
  | depth + 1, written => do
    match written with
    | .empty => return
    | _ =>
      let writing ← get
      if writing.glued > 0 then set { writing with glued := writing.glued - 1 } else blanks
      compose documentOf (command depth) written

def depthLimit : Nat := 1000000

def textOf (writer : Writer) : String := String.ofList (writer.run {}).2.text.reverse

def function (name : String) (body : Command) : String :=
  textOf do
    put (name ++ " () \n")
    definition documentOf (command documentOf depthLimit) body

def commandText (written : Command) : String := textOf (command documentOf depthLimit written)

def commandHead (written : Command) : String :=
  match written with
  | .each _ name shown _ _ => "for " ++ name ++ " in " ++ shown
  | .menu _ name shown _ _ => "select " ++ name ++ " in " ++ shown
  | .choice _ shown _ _ => "case " ++ shown ++ " in "
  | _ => commandText documentOf written

end

end Writing

end Assay.Script
