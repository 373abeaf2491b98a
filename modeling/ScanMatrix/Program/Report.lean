/-!
# Reports

How a program ends, and the text by which it reports an error: the outermost message, then what
lies behind it, numbered if there is more than one.
-/

namespace ScanMatrix.Program

structure Outcome where
  exit : Nat
  stdout : String
  stderr : String

/-- A text whose lines after the first are moved to the right. -/
def indented (first margin : String) (text : String) : String :=
  first ++ String.ofList (text.toList.flatMap fun c => if c = '\n' then c :: margin.toList else [c])

def numbered (n : Nat) : List String → List String
  | [] => []
  | cause :: causes =>
    let mark := toString n
    let blanks := String.ofList (List.replicate (5 - mark.length) ' ')
    indented (blanks ++ mark ++ ": ") "       " cause :: numbered (n + 1) causes

def report (message : String) (causes : List String) : String :=
  "Error: " ++ message ++
    (match causes with
    | [] => ""
    | [cause] => "\n\nCaused by:\n" ++ indented "    " "    " cause
    | causes => "\n\nCaused by:\n" ++ "\n".intercalate (numbered 0 causes)) ++ "\n"

def failure (message : String) (causes : List String) : Outcome := ⟨1, "", report message causes⟩

end ScanMatrix.Program
