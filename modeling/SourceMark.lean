import SourceMark.Text.Blank
import SourceMark.Text.Cut
import SourceMark.Text.Search
import SourceMark.Text.Numeral
import SourceMark.Text.LineIndex
import SourceMark.Text.Insertion
import SourceMark.Json
import SourceMark.Json.Printer
import SourceMark.Json.Reader
import SourceMark.Location
import SourceMark.Marker
import SourceMark.Annotator
import SourceMark.Metadata
import SourceMark.Metadata.Written
import SourceMark.Logging
import SourceMark.Text.Identifier
import SourceMark.Script.Tree
import SourceMark.Script.Gap
import SourceMark.Script.Spelling
import SourceMark.Script.Literal
import SourceMark.Script.Lexeme
import SourceMark.Script.Reading
import SourceMark.Script.Grammar
import SourceMark.Script.Bindings
import SourceMark.Script.Signatures
import SourceMark.Script.Members
import SourceMark.Script.Types
import SourceMark.Script.Functions
import SourceMark.Script.Accesses
import SourceMark.Script.Classes
import SourceMark.Script.Elements
import SourceMark.Script.Operations
import SourceMark.Script.Arrows
import SourceMark.Script.Values
import SourceMark.Script.Expressions
import SourceMark.Script.Variables
import SourceMark.Script.Declarations
import SourceMark.Script.Statements
import SourceMark.Script.Imports
import SourceMark.Script.Exports
import SourceMark.Script.Module
import SourceMark.Script.Selection
import SourceMark.Script.Marking
import SourceMark.Script.Annotation
import SourceMark.Text.Cursor
import SourceMark.Template.Tag
import SourceMark.Template.Token
import SourceMark.Template.Tree
import SourceMark.Template.Blocks
import SourceMark.Template.Annotation
import SourceMark.Markup.Tag
import SourceMark.Markup.Marking
import SourceMark.Markup.Literal
import SourceMark.Markup.Annotation
import SourceMark.Page.Document
import SourceMark.Page.Written
import SourceMark.Page.Snippet
import SourceMark.Metadata.Registry
import SourceMark.Page.Resolver
import SourceMark.Overlay.Editor
import SourceMark.Overlay.Store
import SourceMark.Overlay.Preferences
import SourceMark.Page.Host
import SourceMark.Overlay.Controller
import SourceMark.Overlay.Display
import SourceMark.Overlay.Mount
import SourceMark.Text.CharSet
import SourceMark.Text.CaseFold
import SourceMark.Unicode.Category
import SourceMark.Unicode.Script
import SourceMark.Unicode.Extension
import SourceMark.Unicode.Age
import SourceMark.Unicode.Trait
import SourceMark.Unicode.Property
import SourceMark.Regex.Syntax
import SourceMark.Regex.Sets
import SourceMark.Regex.Reach
import SourceMark.Regex.Size
import SourceMark.Regex.Escape
import SourceMark.Regex.Reader
import SourceMark.Toml.Table
import SourceMark.Toml.Text
import SourceMark.Toml.Scalar
import SourceMark.Toml.Reader
import SourceMark.Files.Path
import SourceMark.Files.Disk
import SourceMark.Configuration
import SourceMark.Configuration.Reader
import SourceMark.Hook
import SourceMark.Command
import SourceMark.Command.Arguments
import SourceMark.Command.Build
import SourceMark.Command.Run
import SourceMark.Main
import SourceMark.Proofs.Evaluation
import SourceMark.Proofs.Text.Cursors
import SourceMark.Proofs.Text.Insertions
import SourceMark.Proofs.Text.Numerals
import SourceMark.Proofs.Text.Positions
import SourceMark.Proofs.Location
import SourceMark.Proofs.Marker
import SourceMark.Proofs.Json.RoundTrip
import SourceMark.Proofs.Metadata
import SourceMark.Proofs.Script.Sites
import SourceMark.Proofs.Script.Tables
import SourceMark.Proofs.Script.Modes
import SourceMark.Proofs.Template.Tags
import SourceMark.Proofs.Template.Places
import SourceMark.Proofs.Template.Tokens
import SourceMark.Proofs.Template.Rewriting
import SourceMark.Proofs.Template.Elements
import SourceMark.Proofs.Template.Marks
import SourceMark.Proofs.Template.Blocks
import SourceMark.Proofs.Template.Annotation
import SourceMark.Proofs.Template.Relabelling
import SourceMark.Proofs.Template.Reparsing
import SourceMark.Proofs.Markup.Scans
import SourceMark.Proofs.Markup.Reading
import SourceMark.Proofs.Markup.Annotation
import SourceMark.Proofs.Overlay.Sessions
import SourceMark.Proofs.Overlay.Clicks
import SourceMark.Proofs.Markup.Growth
import SourceMark.Proofs.Markup.Literals
import SourceMark.Proofs.Markup.Components
import SourceMark.Proofs.Template.Runs
import SourceMark.Proofs.Template.Slices
import SourceMark.Proofs.Template.SlicedTags
import SourceMark.Proofs.Template.SlicedEndTags
import SourceMark.Proofs.Template.SlicedTokens
import SourceMark.Proofs.Template.SlicedTrees
import SourceMark.Proofs.Template.SlicedFiles
import SourceMark.Proofs.Template.Totality
import SourceMark.Proofs.Overlay.HeldKeys
import SourceMark.Proofs.Overlay.Activity
import SourceMark.Proofs.Page.Changes
import SourceMark.Proofs.Page.Trees
import SourceMark.Proofs.Page.Walks
import SourceMark.Proofs.Script.Lexemes
import SourceMark.Proofs.Script.Within
import SourceMark.Proofs.Script.Readings
import SourceMark.Proofs.Script.Rules.Types
import SourceMark.Proofs.Script.Rules.Elements
import SourceMark.Proofs.Script.Rules.Values
import SourceMark.Proofs.Script.Rules.Statements
import SourceMark.Proofs.Script.Landing
import SourceMark.Proofs.Hook.Shortcut
import SourceMark.Proofs.Hook.Switches
import SourceMark.Proofs.Template.Nesting
import SourceMark.Proofs.Template.Pieces
import SourceMark.Proofs.Template.Visibility
import SourceMark.Proofs.Markup.SecondScans
import SourceMark.Proofs.Markup.SecondLiterals
import SourceMark.Proofs.Script.SecondPasses
import SourceMark.Proofs.Template.Brackets
import SourceMark.Proofs.Template.Resplitting
import SourceMark.Proofs.Template.SecondPasses
import SourceMark.Proofs.Text.OnePass
import SourceMark.Proofs.Page.Keys
import SourceMark.Proofs.Overlay.Effects
import SourceMark.Proofs.Hook.Failures
import SourceMark.Proofs.Text.Lines
import SourceMark.Proofs.Template.Parts
import SourceMark.Proofs.Template.Outlines
import SourceMark.Proofs.Template.Choices
import SourceMark.Proofs.Template.Acceptance
import SourceMark.Proofs.Template.Shape
import SourceMark.Proofs.Template.PlainForests
import SourceMark.Proofs.Template.Isolation
import SourceMark.Proofs.Template.ComponentTags
import SourceMark.Proofs.Template.Rows
import SourceMark.Proofs.Template.WrittenFiles
import SourceMark.Proofs.Text.Searches
import SourceMark.Proofs.Markup.TagSearches
import SourceMark.Proofs.Markup.TagMarks
import SourceMark.Proofs.Markup.Splices
import SourceMark.Proofs.Markup.Comments
import SourceMark.Proofs.Markup.Properties
import SourceMark.Proofs.Script.Addresses
import SourceMark.Proofs.Script.Traversals
import SourceMark.Proofs.Script.Coverage
import SourceMark.Proofs.Script.Scopes
import SourceMark.Proofs.Script.Attribution
import SourceMark.Proofs.Script.NamedFunctions
import SourceMark.Proofs.Page.Starts
import SourceMark.Proofs.Overlay.Hovering
import SourceMark.Proofs.Files.Disks
import SourceMark.Proofs.Overlay.Stores
import SourceMark.Proofs.Overlay.Reloads
import SourceMark.Proofs.Overlay.Mounting
import SourceMark.Proofs.Page.Markup
import SourceMark.Proofs.Page.Indentation
import SourceMark.Proofs.Command.Rebuilds
import SourceMark.Proofs.Command.Copies
