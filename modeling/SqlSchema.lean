import SqlSchema.Log
import SqlSchema.Main
import SqlSchema.Conversion
import SqlSchema.Json.Reader
import SqlSchema.Proofs.Slices
import SqlSchema.Proofs.Blanks
import SqlSchema.Proofs.CharClasses
import SqlSchema.Proofs.CommentedTypes
import SqlSchema.Proofs.ExportedRows
import SqlSchema.Proofs.PlainSchemas
import SqlSchema.Proofs.Reconciliation
import SqlSchema.Proofs.RereadTables
import SqlSchema.Proofs.RoundTrips
import SqlSchema.Proofs.References
import SqlSchema.Proofs.Deduplication
import SqlSchema.Proofs.StatementOrder
import SqlSchema.Proofs.KeyClauses
import SqlSchema.Proofs.StatementPieces
import SqlSchema.Proofs.AddedKeys
import SqlSchema.Proofs.Detection
import SqlSchema.Proofs.StatementTexts
import SqlSchema.Proofs.Packing
import SqlSchema.Proofs.Shapes
import SqlSchema.Proofs.LetterCase
import SqlSchema.Proofs.CommonSql
import SqlSchema.Proofs.EdgeSources
import SqlSchema.Proofs.Isolation
import SqlSchema.Proofs.ColumnForms
import SqlSchema.Proofs.ConstraintForms
import SqlSchema.Proofs.Bounds
import SqlSchema.Proofs.TableForms
import SqlSchema.Proofs.ActionForms
import SqlSchema.Proofs.TableBodies
import SqlSchema.Proofs.Frames
import SqlSchema.Proofs.ConstraintOrder
import SqlSchema.Proofs.Tiling
import SqlSchema.Proofs.Encodings
import SqlSchema.Proofs.Unclosed
import SqlSchema.Proofs.Listings
import SqlSchema.Proofs.DiagramLines
import SqlSchema.Proofs.Drawings
import SqlSchema.Proofs.PipeTables
import SqlSchema.Proofs.JsonSchemas
import SqlSchema.Proofs.LineEndings
import SqlSchema.Proofs.TopLevel
import SqlSchema.Proofs.DiagramTypes
import SqlSchema.Proofs.Runs
