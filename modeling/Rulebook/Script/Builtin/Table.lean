import Rulebook.Script.Builtin.Place

namespace Rulebook.Script

-- The commands of the shell that call no other ones.
def builtins : List (String × (List String → Work Nat)) :=
  [(":", fun _ => return 0), ("true", fun _ => return 0), ("false", fun _ => return 1),
   ("echo", echoBuiltin), ("printf", printfBuiltin), ("test", testBuiltin "test"),
   ("[", testBuiltin "["), ("read", readBuiltin), ("cd", cdBuiltin), ("chdir", cdBuiltin),
   ("pwd", pwdBuiltin), ("umask", umaskBuiltin), ("times", timesBuiltin),
   ("ulimit", ulimitBuiltin), ("hash", hashBuiltin), ("export", exportBuiltin),
   ("readonly", readonlyBuiltin), ("local", localBuiltin), ("unset", unsetBuiltin),
   ("set", setBuiltin), ("shift", shiftBuiltin), ("getopts", getoptsBuiltin),
   ("alias", aliasBuiltin), ("unalias", unaliasBuiltin), ("exit", exitBuiltin),
   ("return", returnBuiltin), ("break", leaveLoops .breaking),
   ("continue", leaveLoops .continuing), ("trap", trapBuiltin), ("kill", killBuiltin),
   ("wait", waitBuiltin), ("jobs", fun _ => return 0),
   ("bg", fun _ => refuse "No current job"), ("fg", fun _ => refuse "No current job")]

-- All commands of the shell. The last ones call others.
def builtinNames : List String :=
  builtins.map (·.1) ++ ["type", "command", "eval", "exec", "."]

end Rulebook.Script
