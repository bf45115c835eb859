import EntityGen.Editing
import EntityGen.Json.SettingsFormat
import EntityGen.Json.Writer
import EntityGen.Main
import EntityGen.Proofs.Plan.Acceptance
import EntityGen.Proofs.Plan.Edges
import EntityGen.Proofs.Plan.Reciprocity
import EntityGen.Proofs.Plan.Uniqueness
import EntityGen.Proofs.Plan.TableNames
import EntityGen.Proofs.Plan.Deletion
import EntityGen.Proofs.Plan.DeclarationOrder
import EntityGen.Proofs.Code.Passage
import EntityGen.Proofs.Code.Wiring
import EntityGen.Proofs.Schema.UniqueSets
import EntityGen.Proofs.Code.Mentions
import EntityGen.Proofs.Text.Ascii
import EntityGen.Proofs.Naming.Inflection
import EntityGen.Proofs.Naming.LastWord
import EntityGen.Proofs.Naming.Words
import EntityGen.Proofs.Naming.WordCase
import EntityGen.Proofs.Naming.Identifier
import EntityGen.Proofs.Naming.SharedPlural
import EntityGen.Proofs.Naming.PluralNames
import EntityGen.Proofs.Plan.Identifiers
import EntityGen.Proofs.Plan.SetNames
import EntityGen.Proofs.Navigation.SelfReference
import EntityGen.Proofs.Pass.Targets
import EntityGen.Proofs.Json.Schemas
import EntityGen.Proofs.Code.Comments
import EntityGen.Proofs.Command.OwnFiles
import EntityGen.Proofs.Command.Repetition
import EntityGen.Proofs.Naming.Compound
import EntityGen.Proofs.Naming.RoundTrip
import EntityGen.Proofs.Naming.Exceptions
import EntityGen.Proofs.Command.StarterManifest
import EntityGen.Proofs.Command.StarterSchema
import EntityGen.Proofs.Command.StarterFiles
import EntityGen.Proofs.Command.FreshProject
import EntityGen.Proofs.Naming.Spellings
import EntityGen.Proofs.ColumnType.Declarations
import EntityGen.Proofs.Code.ClassHead
import EntityGen.Proofs.Naming.Caseless
import EntityGen.Proofs.Code.Keys
import EntityGen.Proofs.Command.Discovered
import EntityGen.Proofs.Resource.Resolution
import EntityGen.Proofs.Resource.Endings
import EntityGen.Proofs.Manifest.Outputs
import EntityGen.Proofs.Code.Literals
import EntityGen.Proofs.Code.NoteLines
import EntityGen.Proofs.Naming.OtherWords
import EntityGen.Proofs.Naming.Collisions
import EntityGen.Proofs.Naming.JoinedTokens
import EntityGen.Proofs.Plan.Indexes
