import TextTemplate.Session
import TextTemplate.Stock
import TextTemplate.Value.Reader
import TextTemplate.Proofs.Token.Tiling
import TextTemplate.Proofs.Token.Exchange
import TextTemplate.Proofs.Token.Continued
import TextTemplate.Proofs.Token.Front
import TextTemplate.Proofs.Matching
import TextTemplate.Proofs.Simulation
import TextTemplate.Proofs.Grammar.Basic
import TextTemplate.Proofs.Grammar.Tag
import TextTemplate.Proofs.Grammar.Parse
import TextTemplate.Proofs.Descent
import TextTemplate.Proofs.FirstFault
import TextTemplate.Proofs.Path
import TextTemplate.Proofs.Print.Basic
import TextTemplate.Proofs.Print.Scan
import TextTemplate.Proofs.Print.Run
import TextTemplate.Proofs.Print.RoundTrip
import TextTemplate.Proofs.Render.Execution
import TextTemplate.Proofs.Render.Agreement
import TextTemplate.Proofs.Render.Invariant
import TextTemplate.Proofs.Render.Reach
import TextTemplate.Proofs.Render.Lookups
import TextTemplate.Proofs.Scope
import TextTemplate.Proofs.Render.Scopes
import TextTemplate.Proofs.Render.Writing
import TextTemplate.Proofs.Text.HtmlEscape
import TextTemplate.Proofs.Render.Escaping
import TextTemplate.Proofs.Render.Failing
import TextTemplate.Proofs.Render.Refusal
import TextTemplate.Proofs.Render.PartialLimit
import TextTemplate.Proofs.Render.RaisedLimit
import TextTemplate.Proofs.Registration
import TextTemplate.Proofs.Session.Rows
import TextTemplate.Proofs.Session.Commuting
import TextTemplate.Proofs.Render.Registering
import TextTemplate.Proofs.Session.Deleting
import TextTemplate.Proofs.Session.Families
import TextTemplate.Proofs.Render.Places
import TextTemplate.Proofs.Render.SameText
import TextTemplate.Proofs.Seam
import TextTemplate.Proofs.Concatenation
import TextTemplate.Proofs.Comments
import TextTemplate.Proofs.Render.Replacing
import TextTemplate.Proofs.Render.Inlining
import TextTemplate.Proofs.Render.EscapingMode
import TextTemplate.Proofs.PathPrefix
import TextTemplate.Proofs.Missing
import TextTemplate.Proofs.Render.Sections
import TextTemplate.Proofs.Render.Branches
import TextTemplate.Proofs.PathWords
import TextTemplate.Proofs.Nesting
import TextTemplate.Proofs.Surround
import TextTemplate.Proofs.Negation
import TextTemplate.Proofs.Token.Progress
import TextTemplate.Proofs.Token.Brackets
import TextTemplate.Proofs.Counting
import TextTemplate.Proofs.OwnFaults
import TextTemplate.Proofs.Shifting
import TextTemplate.Proofs.Resuming
import TextTemplate.Proofs.Guards
import TextTemplate.Proofs.Spacing
import TextTemplate.Proofs.Text.Unescaping
import TextTemplate.Proofs.Token.Quoted
import TextTemplate.Proofs.Members
import TextTemplate.Proofs.Render.Visits
import TextTemplate.Proofs.Number.Whole
import TextTemplate.Proofs.Number.Reading
import TextTemplate.Proofs.Number.Literals
