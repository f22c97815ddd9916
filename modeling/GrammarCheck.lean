import GrammarCheck.Agreement
import GrammarCheck.Analysis.Analyzer
import GrammarCheck.Analysis.Piece
import GrammarCheck.Analysis.Segment
import GrammarCheck.Binding
import GrammarCheck.Bound
import GrammarCheck.Check.Checker
import GrammarCheck.Check.Example
import GrammarCheck.Check.Report
import GrammarCheck.Check.SentenceStart
import GrammarCheck.Condition
import GrammarCheck.Definition
import GrammarCheck.Dictionary
import GrammarCheck.Disambiguation.Basic
import GrammarCheck.Disambiguation.Run
import GrammarCheck.Element
import GrammarCheck.Location
import GrammarCheck.Match
import GrammarCheck.Matcher
import GrammarCheck.Proofs.Agreement
import GrammarCheck.Proofs.Analysis.Coverage
import GrammarCheck.Proofs.Analysis.Places
import GrammarCheck.Proofs.Analysis.Words
import GrammarCheck.Proofs.Check.Bytes
import GrammarCheck.Proofs.Check.Examples
import GrammarCheck.Proofs.Check.Immunity
import GrammarCheck.Proofs.Check.Neighbours
import GrammarCheck.Proofs.Check.Reports
import GrammarCheck.Proofs.Check.SelfTest
import GrammarCheck.Proofs.Contiguous
import GrammarCheck.Proofs.Disambiguation.Distinct
import GrammarCheck.Proofs.Disambiguation.Fits
import GrammarCheck.Proofs.Disambiguation.Frame
import GrammarCheck.Proofs.Disambiguation.Kept
import GrammarCheck.Proofs.Prefilter.Held
import GrammarCheck.Proofs.Prefilter.Index
import GrammarCheck.Proofs.Prefilter.Invisibility
import GrammarCheck.Proofs.Prefilter.Rejection
import GrammarCheck.Proofs.Rule.Checks
import GrammarCheck.Proofs.Rule.Choice
import GrammarCheck.Proofs.Rule.Derivation
import GrammarCheck.Proofs.Rule.Expansion
import GrammarCheck.Proofs.Rule.Grouping
import GrammarCheck.Proofs.Rule.Positions
import GrammarCheck.Proofs.Rule.Siblings
import GrammarCheck.Proofs.Rule.WellFormed
import GrammarCheck.Proofs.Search.Assignment
import GrammarCheck.Proofs.Search.Completions
import GrammarCheck.Proofs.Search.Covering
import GrammarCheck.Proofs.Search.Disjoint
import GrammarCheck.Proofs.Search.FixedLength
import GrammarCheck.Proofs.Search.Guard
import GrammarCheck.Proofs.Search.Matches
import GrammarCheck.Proofs.Search.Matching
import GrammarCheck.Proofs.Search.Optimality
import GrammarCheck.Proofs.Search.Overlap
import GrammarCheck.Proofs.Search.Preference
import GrammarCheck.Proofs.Search.Scan
import GrammarCheck.Proofs.Search.Successors
import GrammarCheck.Proofs.Source.Filled
import GrammarCheck.Proofs.Success
import GrammarCheck.Proofs.Text.Lowercase
import GrammarCheck.Reading
import GrammarCheck.Reference
import GrammarCheck.Regex.Ast
import GrammarCheck.Regex.Basic
import GrammarCheck.Regex.Expr
import GrammarCheck.Regex.Joining
import GrammarCheck.Regex.Meaning
import GrammarCheck.Regex.Program
import GrammarCheck.Regex.Reader
import GrammarCheck.Regex.Replace
import GrammarCheck.Regex.Storage
import GrammarCheck.Rule.Basic
import GrammarCheck.Rule.Compile
import GrammarCheck.Rule.Expansion
import GrammarCheck.Rule.Fault
import GrammarCheck.RuleSet
import GrammarCheck.Search.Point
import GrammarCheck.Search.Run
import GrammarCheck.Sentence
import GrammarCheck.Session
import GrammarCheck.Source.Fault
import GrammarCheck.Source.Form
import GrammarCheck.Source.Reader
import GrammarCheck.Source.RuleFile
import GrammarCheck.Span
import GrammarCheck.Template
import GrammarCheck.Text.Case
import GrammarCheck.Text.Interner
import GrammarCheck.Text.Literal
import GrammarCheck.Text.Marker
import GrammarCheck.Text.Number
import GrammarCheck.Text.Quoted
import GrammarCheck.Text.Split
import GrammarCheck.Token
import GrammarCheck.Unicode.Boundary
import GrammarCheck.Unicode.Bytes
import GrammarCheck.Unicode.Casing
import GrammarCheck.Unicode.Category
import GrammarCheck.Unicode.Classes
import GrammarCheck.Unicode.Edition
import GrammarCheck.Unicode.Later
import GrammarCheck.Unicode.Naming
import GrammarCheck.Unicode.Property
import GrammarCheck.Unicode.RangeSet
import GrammarCheck.Unicode.Script
import GrammarCheck.Proofs.Analysis.Paragraphs
import GrammarCheck.Proofs.Check.Isolation
import GrammarCheck.Proofs.Search.Likeness
import GrammarCheck.Proofs.Search.NextReferences
import GrammarCheck.Proofs.Regex.Spans
import GrammarCheck.Proofs.Regex.Steady
import GrammarCheck.Proofs.Regex.Parts
import GrammarCheck.Proofs.Regex.Branches
import GrammarCheck.Proofs.Regex.Anchored
import GrammarCheck.Proofs.Resolution
import GrammarCheck.Proofs.Search.BoundSpans
import GrammarCheck.Proofs.Search.MarkerPlace
import GrammarCheck.Proofs.Search.Shape
import GrammarCheck.Proofs.Search.Backreferences
import GrammarCheck.Proofs.Search.Texts
import GrammarCheck.Proofs.Search.SkippedTokens
import GrammarCheck.Proofs.Rule.Features
import GrammarCheck.Proofs.Template.Scanning
import GrammarCheck.Proofs.Template.Layout
import GrammarCheck.Proofs.Template.Substitution
import GrammarCheck.Proofs.Disambiguation.Edits
import GrammarCheck.Proofs.Disambiguation.Failure
import GrammarCheck.Proofs.Disambiguation.Order
import GrammarCheck.Proofs.Disambiguation.UnifiedTokens
import GrammarCheck.Proofs.Rule.Nesting
import GrammarCheck.Proofs.Rule.Recursion
import GrammarCheck.Proofs.Analysis.SentenceEnds
import GrammarCheck.Proofs.Analysis.Respacing
import GrammarCheck.Proofs.Source.Origin
import GrammarCheck.Proofs.Source.Attributes
import GrammarCheck.Proofs.Source.TextConditions
import GrammarCheck.Proofs.Source.Operators
import GrammarCheck.Proofs.Dictionary
import GrammarCheck.Proofs.Text.Literals
import GrammarCheck.Proofs.Text.Markers
import GrammarCheck.Proofs.Search.SingleTokens
import GrammarCheck.Proofs.Unicode.LowercaseLetters
import GrammarCheck.Proofs.Regex.LowercaseStart
import GrammarCheck.Proofs.Check.SentenceStartRule
import GrammarCheck.Proofs.Analysis.OpeningTag
import GrammarCheck.Proofs.Check.SentenceStart
import GrammarCheck.Proofs.Source.Counts
import GrammarCheck.Proofs.Rule.MarkerSum
import GrammarCheck.Proofs.Text.ReadingLists
