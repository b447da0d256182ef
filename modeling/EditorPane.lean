import EditorPane.Config.Document
import EditorPane.Proofs.Buffer.Following
import EditorPane.Proofs.Session.Debounce
import EditorPane.Proofs.Session.Display
import EditorPane.Proofs.Session.Staleness
import EditorPane.Syntax.Word
import EditorPane.Trace
import EditorPane.Proofs.Tag.Lookup
import EditorPane.Proofs.Tag.Dominance
import EditorPane.Proofs.Buffer.Store
import EditorPane.Proofs.Buffer.Batch
import EditorPane.Proofs.Paint.Comments
import EditorPane.Proofs.Session.Markers
import EditorPane.Proofs.Syntax.Quotes
import EditorPane.Proofs.Text.Newlines
import EditorPane.Proofs.Syntax.Reading
import EditorPane.Proofs.Paint.Words
import EditorPane.Proofs.Schedule.History
import EditorPane.Proofs.Buffer.Events
import EditorPane.Proofs.Buffer.Layering
import EditorPane.Proofs.Session.Hover
import EditorPane.Proofs.Tag.Query
import EditorPane.Proofs.Buffer.FullRepaint
import EditorPane.Proofs.Diagnostic.Replacement
import EditorPane.Proofs.Paint.Tokens
import EditorPane.Proofs.Text.Lines
import EditorPane.Proofs.Text.RoundTrip
import EditorPane.Proofs.Buffer.Locality
import EditorPane.Proofs.Buffer.Repetition
import EditorPane.Proofs.Buffer.Order
import EditorPane.Proofs.Buffer.Reports
import EditorPane.Proofs.Buffer.Requests
import EditorPane.Proofs.Schedule.Deadline
import EditorPane.Proofs.Session.Generations
import EditorPane.Proofs.Buffer.WholeText
import EditorPane.Proofs.Buffer.Undo
import EditorPane.Proofs.Diagnostic.Hover
import EditorPane.Proofs.View.Boxes
import EditorPane.Proofs.View.Gutter
import EditorPane.Proofs.Paint.Preorder
import EditorPane.Proofs.Tag.Composition
import EditorPane.Proofs.Config.Colours
import EditorPane.Proofs.Config.Themes
import EditorPane.Proofs.Buffer.Words
