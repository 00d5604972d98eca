import EmbeddedTests.Text
/-!
The sample file: a small module with a block of every kind.
-/
namespace EmbeddedTests.Sanity

open Text

def sampleLines : List String :=
  ["\"\"\"Small module carrying a full set of embedded tests.\"\"\"",
    "",
    "import warnings",
    "",
    "",
    "def clamp(value, low, high):",
    "    if low > high:",
    "        raise ValueError(\"low must not exceed high\")",
    "    return max(low, min(value, high))",
    "",
    "",
    "def legacy_ratio(a, b):",
    "    warnings.warn(\"legacy_ratio is deprecated\", DeprecationWarning)",
    "    return a / b",
    "",
    "",
    "if __name__ == \"__main__\":",
    "    print(clamp(5, 0, 3))",
    "",
    "#!assert clamp(5, 0, 3) == 3",
    "#!assert clamp(-1, 0, 3) == 0",
    "",
    "#!shared low, high",
    "#! low = 0",
    "#! high = 10",
    "",
    "#!test",
    "#! assert clamp(50, low, high) == high",
    "#! high = 20",
    "",
    "#!assert clamp(50, low, high) == 20",
    "",
    "#!error <must not exceed> clamp(1, 5, 0)",
    "#!error id=ZeroDivisionError legacy_ratio(1, 0)",
    "#!warning <deprecated> legacy_ratio(4, 2)",
    "#!warning id=DeprecationWarning legacy_ratio(1, 1)",
    "",
    "#!fail(\"clamp(1, 2, 1)\", \"exceed\")",
    "",
    "#!function y = double_clamped(x)",
    "#!  y = clamp(2 * x, low=0, high=10)",
    "#!endfunction",
    "",
    "#!assert double_clamped(3) == 6",
    "#!assert double_clamped(30) == 10",
    "",
    "#!testif HAVE_NO_SUCH_FEATURE_XYZ",
    "#! assert False",
    "",
    "#!testif ; high < 0",
    "#! assert False",
    "",
    "#!xtest <12345>",
    "#! assert clamp(1, 0, 0) == 1",
    "",
    "#!demo",
    "#! print(clamp(7, 0, 5))"]

def sample : Text := (sampleLines.map fun line => line.toList ++ ['\n']).flatten

end EmbeddedTests.Sanity
