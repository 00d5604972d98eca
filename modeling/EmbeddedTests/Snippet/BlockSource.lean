import EmbeddedTests.Snippet.Names
import EmbeddedTests.Text.Margin
/-!
The function that a block's code is run in. Its parameters are a table of the shared variables and
the shared variables themselves. However the code ends, those that are still bound are written back
to the table.
-/
namespace EmbeddedTests.Snippet

open Text

def blockFunction : Text := "__bist_block__"

def stateName : Text := "__bist_state__"

def localsName : Text := "__bist_locals__"

def writtenName : Text := "__bist_name__"

def writeBack : Text :=
  "    finally:\n"
    ++ "        " ++ localsName ++ " = locals()\n"
    ++ "        for " ++ writtenName ++ " in " ++ stateName ++ ":\n"
    ++ "            if " ++ writtenName ++ " in " ++ localsName ++ ":\n"
    ++ "                " ++ stateName ++ "[" ++ writtenName ++ "] = "
    ++ localsName ++ "[" ++ writtenName ++ "]\n"

def bodyMargin : Text := List.replicate 8 ' '

def blockSource (code : Text) (names : List Text) : Text :=
  let body : Text := if allBlank code then "pass" else code
  "def " ++ blockFunction ++ "(" ++ joinWith ", " (stateName :: names) ++ "):\n"
    ++ "    try:\n"
    ++ indent bodyMargin body ++ "\n"
    ++ writeBack

end EmbeddedTests.Snippet
