import EmbeddedTests.Proofs.BlockShape

/-!
# Running a block

What running the code of a block comes to. The code runs in its own frame, and when it has ended, in
any way but by an interruption, the shared variables have the values that its variables have then.
-/
namespace EmbeddedTests.Snippet

open Text

section

variable {file code : Text} {bindings : Bindings} {record : Bool} {w exit after : World Machine}
  {ended : Except Stop Flow} {answer : Attempt Evaluation} {names : List Text}

end

end EmbeddedTests.Snippet
