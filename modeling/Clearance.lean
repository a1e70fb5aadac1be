import Clearance.Main
import Clearance.Cursor.Session
import Clearance.Proofs.CanonicalOrder
import Clearance.Proofs.ShortCircuit
import Clearance.Proofs.Truth
import Clearance.Proofs.Lexeme
import Clearance.Proofs.Layout
import Clearance.Proofs.Spelling
import Clearance.Proofs.Formula
import Clearance.Proofs.Brackets
import Clearance.Proofs.OpenScopes
import Clearance.Proofs.Meaning
import Clearance.Proofs.LookedUp
import Clearance.Proofs.BracketTree
import Clearance.Proofs.Language
import Clearance.Proofs.Viability
import Clearance.Proofs.Stack
import Clearance.Proofs.Blame
import Clearance.Proofs.ScopeCalls
import Clearance.Proofs.Expressible
import Clearance.Proofs.Places
import Clearance.Proofs.SharedCursor
import Clearance.Proofs.Resumption
import Clearance.Proofs.Enclosure
import Clearance.Proofs.Pieces
import Clearance.Proofs.Writing
import Clearance.Proofs.FirstRefused
import Clearance.Proofs.ForeignValues
import Clearance.Proofs.WrittenForm
import Clearance.Proofs.Mirror
import Clearance.Proofs.RoundTrip
import Clearance.Proofs.WrittenOrder
import Clearance.Proofs.UniqueReading
import Clearance.Proofs.ReadBack
import Clearance.Proofs.Listing
import Clearance.Proofs.JoinedCredentials
import Clearance.Proofs.Access
import Clearance.Proofs.Monotonicity
import Clearance.Proofs.Overlay
import Clearance.Proofs.OverlaidPaths
import Clearance.Proofs.Loading
import Clearance.Proofs.Validation
import Clearance.Proofs.Policies
import Clearance.Proofs.EntryPoints
import Clearance.Proofs.LoggingSection
import Clearance.Proofs.LogChoice
import Clearance.Proofs.Calls
import Clearance.Proofs.Trail
import Clearance.Proofs.QuotedCredentials
import Clearance.Proofs.Branching
import Clearance.Proofs.TableRows
import Clearance.Proofs.TagPieces
import Clearance.Proofs.Escaping
import Clearance.Proofs.DisplayedLabels
