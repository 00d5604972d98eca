import EmbeddedTests.Batch
import EmbeddedTests.Main
import EmbeddedTests.Sanity
import EmbeddedTests.Script
import EmbeddedTests.Proofs.Execution
import EmbeddedTests.Proofs.Run
import EmbeddedTests.Proofs.Simulation
import EmbeddedTests.Proofs.Recording
import EmbeddedTests.Proofs.Shown
import EmbeddedTests.Proofs.Presentation
import EmbeddedTests.Proofs.SnippetConsole
import EmbeddedTests.Proofs.BatchMode
import EmbeddedTests.Proofs.Escape
import EmbeddedTests.Proofs.ExpectedFailures
import EmbeddedTests.Proofs.SharedVariables
import EmbeddedTests.Proofs.Namespace
import EmbeddedTests.Proofs.Layout
import EmbeddedTests.Proofs.Headers
import EmbeddedTests.Proofs.FeatureLists
import EmbeddedTests.Proofs.HeaderGrammar
import EmbeddedTests.Proofs.Decoding
import EmbeddedTests.Proofs.BufferLines
import EmbeddedTests.Proofs.TestScan
import EmbeddedTests.Proofs.FileCourse
import EmbeddedTests.Proofs.FileResults
import EmbeddedTests.Proofs.BatchTotals
import EmbeddedTests.Proofs.FileOrder
import EmbeddedTests.Proofs.CombinedResults
import EmbeddedTests.Proofs.ExitStatus
import EmbeddedTests.Proofs.ModeResults
import EmbeddedTests.Proofs.BatchCourse
import EmbeddedTests.Proofs.FileLists
import EmbeddedTests.Proofs.BatchReport
import EmbeddedTests.Proofs.FirstLine
import EmbeddedTests.Proofs.Margins
import EmbeddedTests.Proofs.Gates
import EmbeddedTests.Proofs.Expectations
import EmbeddedTests.Proofs.CodeLines
import EmbeddedTests.Proofs.Nesting
import EmbeddedTests.Proofs.Identifiers
import EmbeddedTests.Proofs.KeywordCode
import EmbeddedTests.Proofs.SharedTable
import EmbeddedTests.Proofs.FunctionHeaders
import EmbeddedTests.Proofs.BodyCode
import EmbeddedTests.Proofs.AlignedBodies
import EmbeddedTests.Proofs.ExpectationForms
import EmbeddedTests.Proofs.ResultSums
import EmbeddedTests.Proofs.WrappedCode
import EmbeddedTests.Proofs.Settings
import EmbeddedTests.Proofs.SharedParameters
import EmbeddedTests.Proofs.Demos
import EmbeddedTests.Proofs.FileClasses
import EmbeddedTests.Proofs.LeakWatches
import EmbeddedTests.Proofs.Disciplines
import EmbeddedTests.Proofs.FrameEffects
import EmbeddedTests.Proofs.SnippetEffects
import EmbeddedTests.Proofs.WriteBack
import EmbeddedTests.Proofs.ReadingExtent
import EmbeddedTests.Proofs.Readers
import EmbeddedTests.Proofs.DeepLines
import EmbeddedTests.Proofs.ClauseTokens
import EmbeddedTests.Proofs.CodeTokens
import EmbeddedTests.Proofs.BlockShape
import EmbeddedTests.Proofs.BlockRuns
