import EmbeddedTests.Block
/-!
The cases of the sanity check: raw blocks with the kinds that they are of, and files with some of
the counters that testing them comes to.
-/
namespace EmbeddedTests.Sanity

open Text

structure KindCase where
  name : Text
  raw : Text
  kind : BlockKind

structure Scenario where
  name : Text
  /-- The file's text; without one it is the sample file. -/
  source : Option Text
  /-- The counters that are expected, in the order of a report. -/
  counters : List (Text × Int)

def kindCases : List KindCase :=
  [⟨"shared", "shared a, b\n a = 1", .shared⟩,
    ⟨"function", "function y = f(x)\n  y = x", .function⟩,
    ⟨"endfunction", "endfunction", .endfunction⟩,
    ⟨"assert", "assert 1 == 1", .assert⟩,
    ⟨"fail", "fail(\"1/0\")", .fail⟩,
    ⟨"error", "error <division> 1/0", .error⟩,
    ⟨"warning", "warning id=UserWarning f()", .warning⟩,
    ⟨"test", "test\n x = 1", .test⟩,
    ⟨"xtest", "xtest <42>\n assert False", .xtest⟩,
    ⟨"testif", "testif HAVE_FOO; x > 1 <7>\n pass", .testif⟩,
    ⟨"demo", "demo\n print(1)", .demo⟩,
    ⟨"comment", "# just words", .comment⟩,
    ⟨"unknown", "frobnicate 1", .unknown⟩]

def scenarios : List Scenario :=
  [⟨"bundled-sample", none,
      [("tests", 11), ("successes", 11), ("xbug", 1), ("xskip", 1), ("xrtskip", 1)]⟩,
    ⟨"shared-then-assert", some "#!shared a\n#!test a = 3\n#!assert a == 3\n",
      [("tests", 2), ("successes", 2)]⟩,
    ⟨"known-bug", some "#!xtest <42>\n#! assert False\n", [("tests", 0), ("xbug", 1)]⟩,
    ⟨"regression", some "#!xtest <*42>\n#! assert False\n", [("tests", 0), ("xregression", 1)]⟩,
    ⟨"batch-keeps-going", some "#!assert 1 == 2\n#!assert 2 == 2\n#!frobnicate\n",
      [("tests", 3), ("successes", 1)]⟩,
    ⟨"no-tests", some "x = 1\n", [("tests", 0)]⟩]

end EmbeddedTests.Sanity
