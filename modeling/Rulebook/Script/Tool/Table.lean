import Rulebook.Script.Tool.Checksum
import Rulebook.Script.Tool.Columns
import Rulebook.Script.Tool.Comparing
import Rulebook.Script.Tool.Dumping
import Rulebook.Script.Tool.Editing
import Rulebook.Script.Tool.Files
import Rulebook.Script.Tool.Host
import Rulebook.Script.Tool.Scanning
import Rulebook.Script.Tool.Search
import Rulebook.Script.Tool.Sorting
import Rulebook.Script.Tool.Starting

namespace Rulebook.Script

-- The programs on a machine that call no other ones.
def tools : List (String × (List String → Work Nat)) :=
  [("true", fun _ => return 0), ("false", fun _ => return 1),
   -- copying
   ("cat", catTool), ("tac", tacTool), ("rev", revTool), ("wc", wcTool), ("head", headTool),
   ("tail", tailTool), ("tee", teeTool), ("nl", nlTool),
   -- lines and columns
   ("sort", sortTool), ("uniq", uniqTool), ("comm", commTool), ("cut", cutTool),
   ("paste", pasteTool), ("fold", foldTool), ("tr", trTool),
   ("grep", grepTool "grep" 'G'), ("egrep", grepTool "grep" 'E'), ("fgrep", grepTool "grep" 'F'),
   ("expand", expandTool), ("dd", ddTool), ("cmp", cmpTool), ("diff", diffTool),
   -- values
   ("echo", echoTool), ("printf", printfTool), ("test", testTool "test"), ("[", testTool "["),
   ("seq", seqTool), ("expr", exprTool), ("basename", basenameTool), ("dirname", dirnameTool),
   ("yes", yesTool), ("od", odTool), ("base64", base64Tool), ("factor", factorTool),
   ("cksum", cksumTool), ("md5sum", digestTool "md5sum" Checksum.fifth),
   ("sha1sum", digestTool "sha1sum" Checksum.first),
   ("sha256sum", digestTool "sha256sum" Checksum.second),
   -- files
   ("ls", lsTool), ("rm", rmTool), ("mkdir", mkdirTool), ("rmdir", rmdirTool),
   ("touch", touchTool), ("cp", cpTool), ("mv", mvTool), ("mktemp", mktempTool),
   ("chmod", chmodTool), ("ln", lnTool), ("truncate", truncateTool),
   ("realpath", realpathTool), ("readlink", readlinkTool),
   -- the machine
   ("sleep", sleepTool), ("uname", unameTool), ("id", idTool), ("whoami", tellTool "root"),
   ("hostname", tellTool "localhost"), ("nproc", tellTool "1"), ("arch", tellTool "x86_64"),
   ("printenv", printenvTool), ("pwd", pwdTool), ("which", whichTool),
   ("sync", fun _ => return 0)]

-- The programs that call other ones.
def startingTools (fuel : Nat) : List (String × (RunProgram → List String → Work Nat)) :=
  [("env", envTool), ("xargs", xargsTool), ("timeout", timeoutTool), ("sed", sedTool),
   ("awk", scanTool "awk" fuel), ("mawk", scanTool "mawk" fuel)] ++
    ["nohup", "nice", "stdbuf", "setsid"].map fun tool => (tool, plainStart tool)

-- All programs.
def toolNames : List String :=
  tools.map (·.1) ++ (startingTools 0).map (·.1) ++ ["sh", "dash"]

end Rulebook.Script
