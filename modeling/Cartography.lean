import Cartography.Expression.Reading
import Cartography.Settings.Cache
import Cartography.Source.Loose
import Cartography.Style.Layer
import Cartography.Journal.Template
import Cartography.Journal.Logger
import Cartography.Expression.Compile
import Cartography.Host.Memory
import Cartography.Toolkit.Adding
import Cartography.Toolkit.Call
import Cartography.Ambient
import Cartography.Toolkit.Ambient
import Cartography.Journal.Guard
import Cartography.Toolkit.Session
import Cartography.Proofs.Expression.Grammar
import Cartography.Proofs.Expression.Replay
import Cartography.Proofs.Expression.Recognition
import Cartography.Proofs.Expression.Unambiguous
import Cartography.Proofs.Expression.FirstFault
import Cartography.Proofs.Expression.LexicalClass
import Cartography.Proofs.Expression.LongestLexeme
import Cartography.Proofs.Expression.QuotedText
import Cartography.Proofs.Expression.MaximalMunch
import Cartography.Proofs.Expression.PrintedForm
import Cartography.Proofs.Expression.RoundTrip
import Cartography.Proofs.Expression.SideBySide
import Cartography.Proofs.Value.Entries
import Cartography.Proofs.Value.Writable
import Cartography.Proofs.Journal.Writing
import Cartography.Proofs.Expression.Composition
import Cartography.Proofs.Expression.Compilation
import Cartography.Proofs.Style.Partition
import Cartography.Proofs.Style.OwnFields
import Cartography.Proofs.Style.Assembled
import Cartography.Proofs.Style.Forms
import Cartography.Proofs.Host.Requests
import Cartography.Proofs.Toolkit.ExplicitFields
import Cartography.Proofs.Outcome
import Cartography.Proofs.Source.Spec
import Cartography.Proofs.Source.TileSize
import Cartography.Proofs.Source.Contract
import Cartography.Proofs.Text.Lowered
import Cartography.Proofs.Source.Rules
import Cartography.Proofs.Toolkit.Registering
import Cartography.Proofs.Toolkit.VectorPaths
import Cartography.Proofs.Toolkit.LooseSources
import Cartography.Proofs.Toolkit.OwnSettings
import Cartography.Proofs.Source.NormalForm
import Cartography.Proofs.Toolkit.AddingAgain
import Cartography.Proofs.Host.Moments
import Cartography.Proofs.Host.Asking
import Cartography.Proofs.Host.Acting
import Cartography.Proofs.Host.LastValue
import Cartography.Proofs.Toolkit.CheckingFirst
import Cartography.Proofs.Toolkit.Subscribing
import Cartography.Proofs.Toolkit.Untouched
import Cartography.Proofs.Toolkit.StylingLater
import Cartography.Proofs.Host.Listening
import Cartography.Proofs.Toolkit.ErrorListening
import Cartography.Proofs.Toolkit.Isolation
import Cartography.Proofs.Toolkit.LevelsApart
import Cartography.Proofs.Toolkit.Sessions
import Cartography.Proofs.Settings.Sharing
import Cartography.Proofs.Journal.MessageLength
import Cartography.Proofs.Toolkit.Handles
import Cartography.Proofs.Toolkit.BatchStyling
import Cartography.Proofs.Style.Spelling
import Cartography.Proofs.Toolkit.Respelling
import Cartography.Proofs.Toolkit.Setters
import Cartography.Proofs.Source.VectorTiles
import Cartography.Proofs.Toolkit.VectorSources
import Cartography.Proofs.Settings.Checking
import Cartography.Proofs.Settings.CommaLists
import Cartography.Proofs.Settings.RoundTrip
import Cartography.Proofs.Toolkit.Opening
import Cartography.Proofs.Expression.Alike
import Cartography.Proofs.Expression.Places
import Cartography.Proofs.Expression.Spacing
import Cartography.Proofs.Expression.Operands
import Cartography.Proofs.Expression.Lookups
import Cartography.Proofs.Expression.Walk
import Cartography.Proofs.Expression.ScanningWalk
import Cartography.Proofs.Expression.ReadingWalk
import Cartography.Proofs.Expression.FollowedReading
import Cartography.Proofs.Expression.BoundedWalks
