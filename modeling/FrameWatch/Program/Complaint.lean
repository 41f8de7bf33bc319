/-!
# Complaints

What is told about the error that a program ends with: its message and, under a heading, the chain
of its causes. Of several causes, each is numbered.
-/

namespace FrameWatch

/-- The number of a cause in front of its message. -/
def causeNumber (n : Nat) : String :=
  let digits := toString n
  String.ofList (List.replicate (5 - digits.length) ' ') ++ digits ++ ": "

/-- A message behind a lead; its further lines are indented. -/
def hang (lead indent message : String) : String :=
  lead ++ ("\n" ++ indent).intercalate (message.splitOn "\n")

/-- The causes of an error, each on lines of its own. -/
def causeLines : List String → List String
  | [] => []
  | [cause] => [hang "    " "    " cause]
  | causes => causes.zipIdx.map fun (cause, n) => hang (causeNumber n) "       " cause

/-- What is told about an error and its causes. -/
def errorText (message : String) (causes : List String) : String :=
  let heading := if causes.isEmpty then [] else ["", "Caused by:"]
  String.join ((("Error: " ++ message) :: heading ++ causeLines causes).map (· ++ "\n"))

end FrameWatch
