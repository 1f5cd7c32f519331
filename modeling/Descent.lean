import Descent.Cursor.Slots
import Descent.Error.Report
import Descent.Grammar.Run
import Descent.Proofs.Alternation
import Descent.Proofs.Arithmetic
import Descent.Proofs.Chain
import Descent.Proofs.Consuming
import Descent.Proofs.Correspondence
import Descent.Proofs.Digits
import Descent.Proofs.Locality
import Descent.Proofs.Passage
import Descent.Proofs.History
import Descent.Proofs.Table
import Descent.Proofs.Termination
import Descent.Proofs.Tokens
import Descent.Proofs.Writing
import Descent.Token.Byte
import Descent.Token.Lexeme
import Descent.Token.Piece
import Descent.Token.Scalar
import Descent.Token.Word
import Descent.Proofs.Agreement
import Descent.Proofs.Shape
import Descent.Proofs.Equality
import Descent.Proofs.Diagnosis
import Descent.Proofs.Layout
import Descent.Proofs.Ending
import Descent.Proofs.Loops
import Descent.Proofs.Row
import Descent.Proofs.Repetition
import Descent.Proofs.Courses
import Descent.Proofs.Machine
import Descent.Proofs.Ranges
import Descent.Proofs.Faultless
import Descent.Proofs.Endless
import Descent.Proofs.Tokenwise
import Descent.Proofs.Choosing
import Descent.Proofs.Sequencing
import Descent.Proofs.Gathering
import Descent.Proofs.ReadingOrder
import Descent.Proofs.Membership
import Descent.Proofs.Completion
import Descent.Proofs.Encoding
import Descent.Proofs.Glyphs
import Descent.Proofs.Caret
import Descent.Proofs.Moves
import Descent.Proofs.Routes
