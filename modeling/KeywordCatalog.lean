import KeywordCatalog.Main
import KeywordCatalog.Menu
import KeywordCatalog.Proofs.Cell.Longest
import KeywordCatalog.Proofs.Cell.Row
import KeywordCatalog.Proofs.CommandLine.IndexAll
import KeywordCatalog.Proofs.CommandLine.RoundTrip
import KeywordCatalog.Proofs.Completion.Insertion
import KeywordCatalog.Proofs.Completion.Narrowing
import KeywordCatalog.Proofs.Completion.Object
import KeywordCatalog.Proofs.Completion.Scattered
import KeywordCatalog.Proofs.Editor.Cursor
import KeywordCatalog.Proofs.Editor.Selection
import KeywordCatalog.Proofs.Editor.Spelling
import KeywordCatalog.Proofs.Editor.Workspace
import KeywordCatalog.Proofs.Import.Line
import KeywordCatalog.Proofs.Index.Alias
import KeywordCatalog.Proofs.Index.Arguments
import KeywordCatalog.Proofs.Keyword.Definition
import KeywordCatalog.Proofs.Lookup.Agreement
import KeywordCatalog.Proofs.Queue.History
import KeywordCatalog.Proofs.Scan.Stopping
