import PhpOutline.Main
import PhpOutline.Proofs.Scope.Nesting
import PhpOutline.Proofs.Declaration.Cursor
import PhpOutline.Proofs.Outline.Declared
import PhpOutline.Proofs.Outline.Visit
import PhpOutline.Proofs.Scope.Outermost
import PhpOutline.Proofs.Outline.OpenScopes
import PhpOutline.Proofs.Outline.ScopeJournal
import PhpOutline.Proofs.Outline.Lookup
import PhpOutline.Proofs.Outline.Reference
import PhpOutline.Proofs.Outline.Entry
import PhpOutline.Proofs.Lexer.Lossless
import PhpOutline.Proofs.Lexer.Octets
import PhpOutline.Proofs.Lexer.OctetReaders
import PhpOutline.Proofs.Lexer.ScanLiterals
import PhpOutline.Proofs.Lexer.Scan
import PhpOutline.Proofs.Lexer.Run
import PhpOutline.Proofs.Token.Prepare
import PhpOutline.Proofs.Token.Spelling
import PhpOutline.Proofs.RoundTrip.Written
import PhpOutline.Proofs.RoundTrip.Parts
import PhpOutline.Proofs.RoundTrip.Lookbehind
import PhpOutline.Proofs.RoundTrip.Lookahead
import PhpOutline.Proofs.RoundTrip.Filing
import PhpOutline.Proofs.RoundTrip.File
import PhpOutline.Proofs.Outline.Containment
import PhpOutline.Proofs.Lexer.WordContext
import PhpOutline.Proofs.Layout.Aligned
import PhpOutline.Proofs.Layout.Lookahead
import PhpOutline.Proofs.Layout.Outline
import PhpOutline.Proofs.Lexer.Fence
import PhpOutline.Proofs.Lexer.FencedReaders
import PhpOutline.Proofs.Lexer.StringEdit
import PhpOutline.Proofs.Outline.StringEdit
import PhpOutline.Proofs.Outline.FalseMask
import PhpOutline.Proofs.Outline.SourceLines
import PhpOutline.Proofs.Lexer.CloseTag
import PhpOutline.Proofs.Layout.Filing
import PhpOutline.Proofs.Layout.LineBreaks
import PhpOutline.Proofs.Lexer.FencedRun
import PhpOutline.Proofs.Lexer.Punctuation
import PhpOutline.Proofs.Files.PathOrder
import PhpOutline.Proofs.Outline.WellFormed
import PhpOutline.Proofs.Files.Discovery
import PhpOutline.Proofs.Files.Writing
import PhpOutline.Proofs.Survey.Entries
import PhpOutline.Proofs.Survey.Run
import PhpOutline.Proofs.Scope.Balance
import PhpOutline.Proofs.Declaration.DocComment
import PhpOutline.Proofs.Lexer.Extension
import PhpOutline.Proofs.Outline.HaltedData
import PhpOutline.Proofs.Declaration.Complexity
import PhpOutline.Proofs.Declaration.Ternary
import PhpOutline.Proofs.Lexer.Heredoc
import PhpOutline.Proofs.Outline.Imports
import PhpOutline.Proofs.Lexer.Shape
import PhpOutline.Proofs.Package.TagSearch
import PhpOutline.Proofs.Lexer.LetterCase
import PhpOutline.Proofs.Lexer.Recased
import PhpOutline.Proofs.Layout.LeadingMarkup
import PhpOutline.Proofs.Outline.LeadingMarkup
import PhpOutline.Proofs.Text.Split
import PhpOutline.Proofs.Files.Exclusion
import PhpOutline.Proofs.Outline.MethodLookup
