import RecordExtraction.Extraction.Construct
import RecordExtraction.Extraction.Error
import RecordExtraction.Extraction.Input
import RecordExtraction.Library
import RecordExtraction.Locator.Axis
import RecordExtraction.Locator.Error
import RecordExtraction.Locator.Evaluation
import RecordExtraction.Locator.Expr
import RecordExtraction.Locator.Functions
import RecordExtraction.Locator.Item
import RecordExtraction.Locator.Lexer
import RecordExtraction.Locator.Numeral
import RecordExtraction.Locator.Parser
import RecordExtraction.Locator.Token
import RecordExtraction.Locator.Value
import RecordExtraction.Logging.Event
import RecordExtraction.Logging.Level
import RecordExtraction.Logging.Logger
import RecordExtraction.Markup.Builder
import RecordExtraction.Markup.Content
import RecordExtraction.Markup.Document
import RecordExtraction.Markup.Name
import RecordExtraction.Markup.Reader
import RecordExtraction.Markup.Reading
import RecordExtraction.Markup.Scope
import RecordExtraction.Number.Basic
import RecordExtraction.Number.Decimal
import RecordExtraction.Number.Format
import RecordExtraction.Number.Numeral
import RecordExtraction.Number.Power
import RecordExtraction.Plan.Basic
import RecordExtraction.Plan.Step
import RecordExtraction.Proofs.Extraction.Independence
import RecordExtraction.Proofs.Extraction.Nullability
import RecordExtraction.Proofs.Extraction.PropertyLocators
import RecordExtraction.Proofs.Extraction.SourceDiscipline
import RecordExtraction.Proofs.Extraction.TypedRecords
import RecordExtraction.Proofs.Locator.AddedSpace
import RecordExtraction.Proofs.Locator.AnyDepth
import RecordExtraction.Proofs.Locator.AxisPartition
import RecordExtraction.Proofs.Locator.Comparisons
import RecordExtraction.Proofs.Locator.Conditions
import RecordExtraction.Proofs.Locator.ConverseAxes
import RecordExtraction.Proofs.Locator.ConverseComparisons
import RecordExtraction.Proofs.Locator.DocumentOrder
import RecordExtraction.Proofs.Locator.ElementNames
import RecordExtraction.Proofs.Locator.ErrorPositions
import RecordExtraction.Proofs.Locator.Grammar
import RecordExtraction.Proofs.Locator.GrammarCompleteness
import RecordExtraction.Proofs.Locator.GrammarSoundness
import RecordExtraction.Proofs.Locator.HalfFloors
import RecordExtraction.Proofs.Locator.HalfSums
import RecordExtraction.Proofs.Locator.Kind
import RecordExtraction.Proofs.Locator.KindSoundness
import RecordExtraction.Proofs.Locator.NearestInteger
import RecordExtraction.Proofs.Locator.OwnName
import RecordExtraction.Proofs.Locator.ParserCalls
import RecordExtraction.Proofs.Locator.ParserProgress
import RecordExtraction.Proofs.Locator.ParserTermination
import RecordExtraction.Proofs.Locator.PathAlgebra
import RecordExtraction.Proofs.Locator.Positions
import RecordExtraction.Proofs.Locator.Rounding
import RecordExtraction.Proofs.Locator.SiblingPaths
import RecordExtraction.Proofs.Locator.Slices
import RecordExtraction.Proofs.Locator.SpaceNormalization
import RecordExtraction.Proofs.Locator.Spelling
import RecordExtraction.Proofs.Locator.StringValues
import RecordExtraction.Proofs.Locator.Substrings
import RecordExtraction.Proofs.Locator.TokenEnds
import RecordExtraction.Proofs.Locator.TokenPlaces
import RecordExtraction.Proofs.Locator.Tokenization
import RecordExtraction.Proofs.Locator.Unions
import RecordExtraction.Proofs.Markup.RootElement
import RecordExtraction.Proofs.Number.HalfEven
import RecordExtraction.Proofs.Number.Integers
import RecordExtraction.Proofs.Outcome
import RecordExtraction.Proofs.Plan.Assembly
import RecordExtraction.Proofs.Plan.Identity
import RecordExtraction.Proofs.Plan.Listing
import RecordExtraction.Proofs.Plan.ListingRun
import RecordExtraction.Proofs.Record.ArgumentPositions
import RecordExtraction.Proofs.Record.IntegerTexts
import RecordExtraction.Proofs.Schema.Admission
import RecordExtraction.Proofs.Schema.NullableEntries
import RecordExtraction.Proofs.Schema.TypeTexts
import RecordExtraction.Proofs.Text.FirstOccurrence
import RecordExtraction.Proofs.Text.Trimming
import RecordExtraction.Proofs.Text.Words
import RecordExtraction.Record.Arguments
import RecordExtraction.Record.Basic
import RecordExtraction.Record.Coercion
import RecordExtraction.Record.Json
import RecordExtraction.Record.Value
import RecordExtraction.Schema.Basic
import RecordExtraction.Schema.DeclaredType
import RecordExtraction.Schema.Entry
import RecordExtraction.Schema.Kind
import RecordExtraction.SchemaFile.Decode
import RecordExtraction.SchemaFile.Json
import RecordExtraction.SchemaFile.JsonNumber
import RecordExtraction.SchemaFile.JsonString
import RecordExtraction.SchemaFile.Load
import RecordExtraction.SchemaFile.Node
import RecordExtraction.SchemaFile.Yaml.BlockScalar
import RecordExtraction.SchemaFile.Yaml.Cursor
import RecordExtraction.SchemaFile.Yaml.Folding
import RecordExtraction.SchemaFile.Yaml.Meaning
import RecordExtraction.SchemaFile.Yaml.Scanner
import RecordExtraction.SchemaFile.Yaml.Tag
import RecordExtraction.SchemaFile.Yaml.Token
import RecordExtraction.SchemaFile.Yaml.Tree
import RecordExtraction.Settings.Basic
import RecordExtraction.Settings.Natural
import RecordExtraction.Source.Basic
import RecordExtraction.Source.ByteReader
import RecordExtraction.Text.Blank
import RecordExtraction.Text.CharTable
import RecordExtraction.Text.Graphic
import RecordExtraction.Text.Letter
import RecordExtraction.Text.LowerCase
import RecordExtraction.Text.Quoted
import RecordExtraction.Text.Search
import RecordExtraction.Text.Utf8
