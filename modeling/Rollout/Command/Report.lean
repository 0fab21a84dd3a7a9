/-!
# Reports

How a failed command tells what it was doing and why that failed.
-/

namespace Rollout

/-- What failed, and its causes from the nearest to the deepest. -/
structure Failure where
  context : String
  causes : List String
deriving DecidableEq, Repr

namespace Failure

def indent (margin text : String) : String :=
  String.ofList (text.toList.flatMap fun c => if c = '\n' then '\n' :: margin.toList else [c])

def numbered (n : Nat) : List String → String
  | [] => ""
  | cause :: rest => s!"    {n}: " ++ indent "       " cause ++ "\n" ++ numbered (n + 1) rest

def report (f : Failure) : String :=
  let causes :=
    match f.causes with
    | [] => ""
    | [cause] => "\nCaused by:\n    " ++ indent "    " cause ++ "\n"
    | causes => "\nCaused by:\n" ++ numbered 0 causes
  "Error: " ++ f.context ++ "\n" ++ causes

def line (f : Failure) : String :=
  ": ".intercalate (f.context :: f.causes)

end Failure

end Rollout
