import SearchFilter.Address.Basic
import SearchFilter.Address.Path
import SearchFilter.Address.Resolver
import SearchFilter.Backend
import SearchFilter.Calendar.Date
import SearchFilter.Calendar.DayMonthYear
import SearchFilter.Clause
import SearchFilter.Cli.Arguments
import SearchFilter.Cli.Command
import SearchFilter.Cli.CommandLine
import SearchFilter.Cli.Count
import SearchFilter.Client
import SearchFilter.Coercion
import SearchFilter.CompiledQuery
import SearchFilter.Compiler
import SearchFilter.Entries
import SearchFilter.Failure
import SearchFilter.FieldType
import SearchFilter.FilterKey
import SearchFilter.Host.Basic
import SearchFilter.Host.Direction
import SearchFilter.Host.Label
import SearchFilter.Host.Letters
import SearchFilter.Host.Neighbours
import SearchFilter.Host.Numeric
import SearchFilter.Host.Punycode
import SearchFilter.Http
import SearchFilter.Json.Printer
import SearchFilter.Json.Reader
import SearchFilter.Lucene
import SearchFilter.Main
import SearchFilter.Model
import SearchFilter.Number.Binary64
import SearchFilter.Number.Decimal
import SearchFilter.Number.Numeral
import SearchFilter.Number.Shortest
import SearchFilter.Page
import SearchFilter.Predicate
import SearchFilter.Proofs.Address.Lawful
import SearchFilter.Proofs.Address.Names
import SearchFilter.Proofs.Address.Siblings
import SearchFilter.Proofs.Calendar.FixedWidth
import SearchFilter.Proofs.Calendar.Moments
import SearchFilter.Proofs.Calendar.Notation
import SearchFilter.Proofs.Calendar.Occurrences
import SearchFilter.Proofs.Clause.Conditions
import SearchFilter.Proofs.Clause.Matching
import SearchFilter.Proofs.Clause.Truth
import SearchFilter.Proofs.Clause.Wildcards
import SearchFilter.Proofs.Clause.Writable
import SearchFilter.Proofs.Cli.Preview
import SearchFilter.Proofs.Client.Answers
import SearchFilter.Proofs.Client.Lifecycle
import SearchFilter.Proofs.Client.Posted
import SearchFilter.Proofs.Client.Resolving
import SearchFilter.Proofs.Client.Sent
import SearchFilter.Proofs.Client.Slices
import SearchFilter.Proofs.Client.Walk
import SearchFilter.Proofs.Client.Window
import SearchFilter.Proofs.Coercion
import SearchFilter.Proofs.Compiler.Apart
import SearchFilter.Proofs.Compiler.Conditions
import SearchFilter.Proofs.Compiler.Containing
import SearchFilter.Proofs.Compiler.Dates
import SearchFilter.Proofs.Compiler.Directives
import SearchFilter.Proofs.Compiler.EmptyTerms
import SearchFilter.Proofs.Compiler.FreeText
import SearchFilter.Proofs.Compiler.Grouping
import SearchFilter.Proofs.Compiler.Groups
import SearchFilter.Proofs.Compiler.Listed
import SearchFilter.Proofs.Compiler.Meaning
import SearchFilter.Proofs.Compiler.Membership
import SearchFilter.Proofs.Compiler.Models
import SearchFilter.Proofs.Compiler.Options
import SearchFilter.Proofs.Compiler.Readings
import SearchFilter.Proofs.Compiler.Refusals
import SearchFilter.Proofs.Compiler.Roles
import SearchFilter.Proofs.Compiler.Sendable
import SearchFilter.Proofs.Entries
import SearchFilter.Proofs.FilterKey
import SearchFilter.Proofs.Json.Doubles
import SearchFilter.Proofs.Json.Forms
import SearchFilter.Proofs.Json.Numbers
import SearchFilter.Proofs.Json.ReadBack
import SearchFilter.Proofs.Json.Records
import SearchFilter.Proofs.Json.Strings
import SearchFilter.Proofs.Json.Writable
import SearchFilter.Proofs.Lucene.Bracketing
import SearchFilter.Proofs.Lucene.Cutting
import SearchFilter.Proofs.Lucene.EmptyGroups
import SearchFilter.Proofs.Lucene.Escaping
import SearchFilter.Proofs.Lucene.Marks
import SearchFilter.Proofs.Lucene.Operators
import SearchFilter.Proofs.Lucene.ReadBack
import SearchFilter.Proofs.Lucene.Stars
import SearchFilter.Proofs.Lucene.Term
import SearchFilter.Proofs.Number.Digits
import SearchFilter.Proofs.Number.Nearness
import SearchFilter.Proofs.Number.Numerals
import SearchFilter.Proofs.Number.Quotient
import SearchFilter.Proofs.Number.ReadsBack
import SearchFilter.Proofs.Number.Rounding
import SearchFilter.Proofs.Number.Shortest
import SearchFilter.Proofs.Page.Count
import SearchFilter.Proofs.Page.Records
import SearchFilter.Proofs.Page.Windows
import SearchFilter.Proofs.Predicate
import SearchFilter.Proofs.QueryString.Building
import SearchFilter.Proofs.QueryString.Decoded
import SearchFilter.Proofs.QueryString.Decoding
import SearchFilter.Proofs.QueryString.Names
import SearchFilter.Proofs.QueryString.RoundTrip
import SearchFilter.Proofs.Results
import SearchFilter.Proofs.Schema
import SearchFilter.Proofs.Schema.Declared
import SearchFilter.Proofs.Schema.Mapping
import SearchFilter.Proofs.Search.Once
import SearchFilter.Proofs.Search.Signs
import SearchFilter.Proofs.Settings
import SearchFilter.Proofs.Sort
import SearchFilter.Proofs.Text.Blank
import SearchFilter.Proofs.Text.Split
import SearchFilter.Proofs.Value.Display
import SearchFilter.Proofs.Value.Integers
import SearchFilter.Proofs.Value.Written
import SearchFilter.QueryString.Decoding
import SearchFilter.QueryString.Encoding
import SearchFilter.QueryString.Params
import SearchFilter.Resolver
import SearchFilter.Schema
import SearchFilter.Search
import SearchFilter.Settings
import SearchFilter.Sort
import SearchFilter.Text.Base64
import SearchFilter.Text.Blank
import SearchFilter.Text.CodeRun
import SearchFilter.Text.Composition
import SearchFilter.Text.Digit
import SearchFilter.Text.Letter
import SearchFilter.Text.Mark
import SearchFilter.Text.Percent
import SearchFilter.Text.Printable
import SearchFilter.Text.Quoted
import SearchFilter.Text.SmallLetter
import SearchFilter.Text.Split
import SearchFilter.Value.Basic
import SearchFilter.Value.Display
import SearchFilter.Value.Members
