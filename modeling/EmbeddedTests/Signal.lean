import EmbeddedTests.Text
/-!
The marks that lines of a report start with, and the legend that explains them.
-/
namespace EmbeddedTests.Signal

def failure : Text := "!!!!! "

def empty : Text := "????? "

def block : Text := "***** "

def file : Text := ">>>>> "

def skip : Text := "----- "

def legend : Text :=
  "# " ++ file ++ " new test file\n"
    ++ "# " ++ empty ++ " no tests in file\n"
    ++ "# " ++ failure ++ " test had an unexpected result\n"
    ++ "# " ++ skip ++ " test was skipped\n"
    ++ "# " ++ block ++ " code for the test\n\n"
    ++ "# Search for the unexpected results in the file\n"
    ++ "# then page back to find the filename which caused it.\n"
    ++ "# The result may be an unexpected failure (in which\n"
    ++ "# case an error will be reported) or an unexpected\n"
    ++ "# success (in which case no error will be reported).\n"

end EmbeddedTests.Signal
