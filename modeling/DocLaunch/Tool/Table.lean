import DocLaunch.Tool.Starting

namespace DocLaunch.Tool

open Machine (Bytes Launch Work)

def plainTools : List (String × Utility) :=
  [("[", testTool true), ("basename", baseName), ("cat", cat), ("chmod", chmod), ("cmp", cmp),
   ("comm", comm), ("cp", cp), ("cut", cut), ("date", date), ("dirname", dirName), ("echo", echo),
   ("egrep", grepAs .extended), ("expr", expr), ("false", fun _ _ => return 1),
   ("fgrep", grepAs .fixed), ("fold", fold), ("grep", grepAs .basic), ("head", head),
   ("id", identity), ("kill", killTool), ("ln", ln), ("ls", ls), ("mkdir", mkdir),
   ("mktemp", makeTemporary), ("mv", mv), ("nl", nl), ("od", od), ("paste", paste),
   ("printenv", printEnvironment), ("printf", printf), ("pwd", workingDirectory),
   ("readlink", readLink), ("realpath", realPath), ("rev", rev), ("rm", rm), ("rmdir", rmdir),
   ("sed", sed), ("seq", seq), ("sleep", sleep), ("sort", sort), ("tac", tac), ("tail", tail),
   ("tee", tee), ("test", testTool false), ("touch", touch), ("tr", tr),
   ("true", fun _ _ => return 0), ("uname", systemName), ("uniq", uniq), ("wc", wc),
   ("whoami", userName),
   ("which", which), ("yes", yes)]

def starters : List (String × Starter) :=
  [("env", env), ("find", find), ("nohup", nohup), ("timeout", timeout), ("xargs", xargs)]

def names : List String := plainTools.map Prod.fst ++ starters.map Prod.fst

/-- The status of a tool that cannot write. -/
def troubleStatus (tool : String) : Nat :=
  if ["ls", "sort", "grep", "egrep", "fgrep", "cmp", "[", "test", "printenv"].contains tool then 2
  else if tool = "expr" then 3 else if tool = "sed" then 4 else 1

def run (launch : Launch) (tool : String) (args : List Bytes) : Work WaitStatus := do
  let name := args.headD tool
  let args := args.drop 1
  match starters.lookup tool, plainTools.lookup tool with
  | some starter, _ => starter launch name args
  | none, some plain => finish name (← plain name args) (troubleStatus tool)
  | none, none => return .exited 127

end DocLaunch.Tool
