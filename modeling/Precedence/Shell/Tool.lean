import Precedence.Shell.Tool.Text
import Precedence.Shell.Tool.Sort
import Precedence.Shell.Tool.Select
import Precedence.Shell.Tool.Grep
import Precedence.Shell.Tool.Sed
import Precedence.Shell.Tool.Find
import Precedence.Shell.Tool.Property
import Precedence.Shell.Tool.Compare
import Precedence.Shell.Tool.Digest
import Precedence.Shell.Tool.Portion
import Precedence.Shell.Tool.Date
import Precedence.Shell.Tool.Awk.Run

namespace Precedence.Shell.Tool

inductive Role where
  | plain (run : Tool)
  | launcher (run : Launcher)
  /-- A shell of its own. -/
  | shell

/-- Shells, and programs that start others, by their names. -/
def launchers : List (String × Role) :=
  [("sh", .shell), ("dash", .shell), ("bash", .shell), ("awk", .launcher awk),
    ("env", .launcher env), ("find", .launcher find), ("mawk", .launcher awk),
    ("nice", .launcher nice), ("nohup", .launcher nohup), ("timeout", .launcher timeout),
    ("xargs", .launcher xargs)]

def plain : List (String × Tool) :=
  [("[", test "["), ("arch", ofText "arch" "x86_64"), ("base64", base64), ("basename", basename),
    ("cat", cat), ("chmod", chmod), ("cksum", cksum), ("cmp", cmp), ("comm", comm), ("cp", cp),
    ("cut", cut), ("date", date), ("dd", dd), ("diff", diff), ("dirname", dirname), ("echo", echo),
    ("egrep", grep true false), ("expand", expand), ("expr", expr), ("factor", factor),
    ("false", ofStatus 1), ("fgrep", grep false true), ("fold", fold), ("grep", grep false false),
    ("groups", ofText "groups" "root"), ("head", head), ("id", identity), ("join", join),
    ("ln", ln), ("logname", logname), ("ls", ls), ("md5sum", sum "md5sum" Digest.md5),
    ("mkdir", mkdir), ("mktemp", mktemp), ("mv", mv), ("nl", nl), ("od", od), ("paste", paste),
    ("printenv", printenv), ("printf", printf), ("pwd", pwd), ("readlink", readlink),
    ("realpath", realpath), ("rev", rev), ("rm", rm), ("rmdir", rmdir), ("sed", sed), ("seq", seq),
    ("sha1sum", sum "sha1sum" Digest.sha1), ("sha256sum", sum "sha256sum" Digest.sha256),
    ("sha512sum", sum "sha512sum" Digest.sha512), ("sleep", sleep), ("sort", sort),
    ("split", split), ("stat", stat), ("sync", ofStatus 0), ("tac", tac), ("tail", tail),
    ("tee", tee), ("test", test "test"), ("touch", touch), ("tr", tr), ("true", ofStatus 0),
    ("truncate", truncate), ("tty", tty), ("uname", uname), ("unexpand", unexpand), ("uniq", uniq),
    ("wc", wc), ("which", which), ("whoami", ofText "whoami" "root"), ("yes", yes)]

def all : List (String × Role) := launchers ++ plain.map fun (name, run) => (name, .plain run)

def ofName? (name : String) : Option Role := all.lookup name

end Precedence.Shell.Tool
