import Assay.Host.Programs
import Assay.Script.Start
import Assay.Utility.Batches
import Assay.Utility.Blocks
import Assay.Utility.Calendar
import Assay.Utility.Columns
import Assay.Utility.Commands
import Assay.Utility.Comparing.Bytes
import Assay.Utility.Comparing.Merging
import Assay.Utility.Counting
import Assay.Utility.Digests
import Assay.Utility.Dump
import Assay.Utility.Edit.Start
import Assay.Utility.Ends
import Assay.Utility.Environment
import Assay.Utility.Factors
import Assay.Utility.Grep.Run
import Assay.Utility.Joining
import Assay.Utility.Letters
import Assay.Utility.Listing
import Assay.Utility.Moving
import Assay.Utility.Numbering
import Assay.Utility.Ordering
import Assay.Utility.Radix
import Assay.Utility.Reckoning
import Assay.Utility.Records.Start
import Assay.Utility.Search.Run
import Assay.Utility.Sequence
import Assay.Utility.Splitting
import Assay.Utility.Units
import Assay.Utility.OptionWords
import Assay.Utility.Tabs

/-!
The programs of the system by their names.
-/

namespace Assay.Utility

def shells : List (String × Program) :=
  [("dash", Script.Start.shell .plain), ("bash", Script.Start.shell .rich), ("rbash", Script.Start.shell .rich)]

def plain : List (String × Program) :=
  [("true", succeed), ("false", refuse), ("echo", echoProgram), ("printf", printfProgram),
   ("test", testProgram), ("[", testProgram), ("pwd", pwd), ("sleep", sleep), ("seq", seq),
   ("basename", basename), ("dirname", dirname), ("yes", yes), ("whoami", whoami), ("id", id),
   ("uname", uname), ("hostname", hostname), ("arch", arch), ("nproc", nproc), ("tty", tty),
   ("printenv", printenv), ("expr", expr), ("sync", sync), ("date", date), ("factor", factor), ("numfmt", numfmt), ("getopt", getopt),
   ("pathchk", pathchk)]

def starters : List (String × Program) :=
  [("env", env), ("nohup", nohup), ("nice", nice), ("stdbuf", stdbuf), ("setsid", setsid),
   ("timeout", timeout), ("flock", flock), ("xargs", xargs), ("kill", kill), ("which", which)]

def texts : List (String × Program) :=
  [("cat", cat), ("head", head), ("tail", tail), ("tee", tee), ("wc", wc), ("nl", nl), ("cut", cut),
   ("paste", paste), ("join", join), ("fold", fold), ("expand", expand), ("unexpand", unexpand),
   ("tr", tr), ("rev", rev), ("sort", sort), ("uniq", uniq), ("tsort", tsort), ("shuf", shuf), ("split", split), ("comm", comm), ("tac", tac),
   ("od", od), ("cmp", cmp), ("diff", diff), ("diff3", diff3), ("sdiff", sdiff), ("grep", grep), ("egrep", egrep), ("fgrep", fgrep),
   ("sed", sed), ("awk", awk), ("mawk", awk), ("nawk", awk), ("dd", dd), ("base64", base64), ("base32", base32),
   ("basenc", basenc), ("b2sum", b2sum), ("md5sum", md5sum),
   ("sha1sum", sha1sum), ("sha224sum", sha224sum), ("sha256sum", sha256sum), ("sha384sum", sha384sum),
   ("sha512sum", sha512sum), ("cksum", cksum), ("sum", sumBlocks)]

def files : List (String × Program) :=
  [("mkdir", mkdir), ("rmdir", rmdir), ("rm", rm), ("unlink", unlink), ("touch", touch), ("ln", ln),
   ("link", link), ("mktemp", mktemp), ("truncate", truncate), ("chmod", chmod), ("chown", chown),
   ("chgrp", chgrp), ("mkfifo", mkfifo), ("cp", cp), ("mv", mv), ("install", install), ("ls", ls), ("readlink", readlink),
   ("realpath", realpath), ("stat", stat), ("find", find)]

def all : List (String × Program) := shells ++ plain ++ starters ++ texts ++ files

def table (name : String) : Option Program := all.lookup name

def systemTree : FileTree := .standard (all.map Prod.fst)

def becomeLimit : Nat := 1000000

def programs : Programs where
  named := table
  become := Program.become table becomeLimit

end Assay.Utility
