import CatalogScout.Text.Range
import CatalogScout.Text.Split
import CatalogScout.Text.Case
import CatalogScout.Text.Lines
import CatalogScout.Text.Utf8
import CatalogScout.Text.CharacterNames
import CatalogScout.Text.Blank
import CatalogScout.Text.Decimal
import CatalogScout.Text.Letter
import CatalogScout.Text.Printable
import CatalogScout.Text.Identifier
import CatalogScout.Text.Quoted
import CatalogScout.Uri.Host
import CatalogScout.Uri.Basic
import CatalogScout.Path
import CatalogScout.FileTree
import CatalogScout.Pattern.CharTest
import CatalogScout.Pattern.Node
import CatalogScout.Pattern.Fault
import CatalogScout.Pattern.Match
import CatalogScout.Pattern.Parser.Cursor
import CatalogScout.Pattern.Parser.Piece
import CatalogScout.Pattern.Parser.Flags
import CatalogScout.Pattern.Parser.Escape
import CatalogScout.Pattern.Parser.Repeat
import CatalogScout.Pattern.Parser.Set
import CatalogScout.Pattern.Parser.Sequence
import CatalogScout.Pattern.Basic
import CatalogScout.Pattern.Star
import CatalogScout.Failure
import CatalogScout.TableName
import CatalogScout.Selection
import CatalogScout.Settings.Basic
import CatalogScout.Settings.Reading
import CatalogScout.Settings.Properties
import CatalogScout.Job
import CatalogScout.LogRecord
import CatalogScout.TreeStore
import CatalogScout.ConfigClient
import CatalogScout.ConfigSource
import CatalogScout.Connection
import CatalogScout.Catalog.Table
import CatalogScout.Catalog.Workspace
import CatalogScout.Dataset
import CatalogScout.Event
import CatalogScout.Pool.Basic
import CatalogScout.Pool.Cache
import CatalogScout.Discovery.Run
import CatalogScout.Discovery.Finder
import CatalogScout.Discovery.Cursor
import CatalogScout.Discovery.Supply
import CatalogScout.Markup
import CatalogScout.Console
import CatalogScout.Logging
import CatalogScout.Commands.Arguments
import CatalogScout.Commands.Invocation
import CatalogScout.Commands.Report
import CatalogScout.Commands.Session
import CatalogScout.Main
import CatalogScout.Proofs.Lists
import CatalogScout.Proofs.Text.Trim
import CatalogScout.Proofs.Text.Utf8
import CatalogScout.Proofs.Text.Tags
import CatalogScout.Proofs.Pattern.Reading
import CatalogScout.Proofs.Pattern.Matching
import CatalogScout.Proofs.Pattern.Counts
import CatalogScout.Proofs.Selection.Policy
import CatalogScout.Proofs.Selection.Refusal
import CatalogScout.Proofs.Selection.Glob
import CatalogScout.Proofs.Selection.Grammar
import CatalogScout.Proofs.Selection.Composition
import CatalogScout.Proofs.Selection.FixedDatabase
import CatalogScout.Proofs.Selection.TableList
import CatalogScout.Proofs.Catalog.TableName
import CatalogScout.Proofs.Settings.Entries
import CatalogScout.Proofs.Settings.Files
import CatalogScout.Proofs.Settings.Writing
import CatalogScout.Proofs.Settings.Overrides
import CatalogScout.Proofs.Settings.Scopes
import CatalogScout.Proofs.Settings.Nesting
import CatalogScout.Proofs.Store.Address
import CatalogScout.Proofs.Store.Client
import CatalogScout.Proofs.Store.Hierarchy
import CatalogScout.Proofs.Store.Caching
import CatalogScout.Proofs.Store.Node
import CatalogScout.Proofs.Store.Flags
import CatalogScout.Proofs.Store.Separation
import CatalogScout.Proofs.Store.Confinement
import CatalogScout.Proofs.Store.Scheme
import CatalogScout.Proofs.Store.Failures
import CatalogScout.Proofs.Store.Opening
import CatalogScout.Proofs.Pool.Conservation
import CatalogScout.Proofs.Pool.Endpoints
import CatalogScout.Proofs.Pool.Sharing
import CatalogScout.Proofs.Pool.Spelling
import CatalogScout.Proofs.Pool.Nesting
import CatalogScout.Proofs.Discovery.Run
import CatalogScout.Proofs.Discovery.Listing
import CatalogScout.Proofs.Discovery.Visit
import CatalogScout.Proofs.Discovery.Ledger
import CatalogScout.Proofs.Discovery.OptOut
import CatalogScout.Proofs.Discovery.Naming
import CatalogScout.Proofs.Discovery.Pulling
import CatalogScout.Proofs.Discovery.Interleaving
import CatalogScout.Proofs.Discovery.Lending
import CatalogScout.Proofs.Commands.Ready
import CatalogScout.Proofs.Commands.Agreement
import CatalogScout.Proofs.Commands.SettingUp
import CatalogScout.Proofs.Commands.Escaping
