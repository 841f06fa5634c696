import GuardedSteps.Clock
import GuardedSteps.CommandLine.Arguments
import GuardedSteps.CommandLine.Run
import GuardedSteps.Comparison.AnyOrder
import GuardedSteps.Comparison.Flag
import GuardedSteps.Comparison.Mismatch
import GuardedSteps.Comparison.Scalar
import GuardedSteps.ErrorType.Basic
import GuardedSteps.ErrorType.Catalog
import GuardedSteps.ErrorType.Declared
import GuardedSteps.ErrorType.Resolve
import GuardedSteps.ErrorType.Standard
import GuardedSteps.Failure
import GuardedSteps.Guard.Basic
import GuardedSteps.Guard.Fields
import GuardedSteps.Guard.Parse
import GuardedSteps.Guard.Spec
import GuardedSteps.Main
import GuardedSteps.Number.DecimalText
import GuardedSteps.Number.Reading
import GuardedSteps.Number.Shortest
import GuardedSteps.Pattern.Alternatives
import GuardedSteps.Pattern.CharacterClass
import GuardedSteps.Pattern.CharacterTest
import GuardedSteps.Pattern.Escape
import GuardedSteps.Pattern.Fault
import GuardedSteps.Pattern.Folding
import GuardedSteps.Pattern.Group
import GuardedSteps.Pattern.Loop
import GuardedSteps.Pattern.Matching
import GuardedSteps.Pattern.Notes
import GuardedSteps.Pattern.Program
import GuardedSteps.Pattern.Reader
import GuardedSteps.Pattern.Repetition
import GuardedSteps.Pattern.Row
import GuardedSteps.Pattern.Switch
import GuardedSteps.Pattern.Syntax
import GuardedSteps.Pattern.Token
import GuardedSteps.Pattern.Width
import GuardedSteps.Phrase.Basic
import GuardedSteps.Phrase.Lead
import GuardedSteps.Phrase.Parts
import GuardedSteps.Phrase.Read
import GuardedSteps.Phrase.Scan
import GuardedSteps.Proofs.Clock
import GuardedSteps.Proofs.Comparison.Order
import GuardedSteps.Proofs.Failure
import GuardedSteps.Proofs.Guard.Phrases
import GuardedSteps.Proofs.Guard.Written
import GuardedSteps.Proofs.Number.Digits
import GuardedSteps.Proofs.Number.Doubles
import GuardedSteps.Proofs.Phrase.Form
import GuardedSteps.Proofs.Phrase.Leftmost
import GuardedSteps.Proofs.Phrase.Settled
import GuardedSteps.Proofs.Run.Attempts
import GuardedSteps.Proofs.Run.Deed
import GuardedSteps.Proofs.Run.Duality
import GuardedSteps.Proofs.Run.Following
import GuardedSteps.Proofs.Run.History
import GuardedSteps.Proofs.Run.Outcome
import GuardedSteps.Proofs.Run.Settling
import GuardedSteps.Proofs.Run.Signals
import GuardedSteps.Proofs.Run.Skip
import GuardedSteps.Proofs.Run.Standing
import GuardedSteps.Proofs.Run.Termination
import GuardedSteps.Proofs.Run.Timeout
import GuardedSteps.Proofs.Value
import GuardedSteps.Run.Condition
import GuardedSteps.Run.Delay
import GuardedSteps.Run.Evaluate
import GuardedSteps.Run.Polling
import GuardedSteps.Run.Result
import GuardedSteps.Run.World
import GuardedSteps.Session.Basic
import GuardedSteps.Session.Script
import GuardedSteps.Session.Step
import GuardedSteps.Settings
import GuardedSteps.Template
import GuardedSteps.Text.Affix
import GuardedSteps.Text.Blank
import GuardedSteps.Text.CharacterName
import GuardedSteps.Text.CharacterName.Alias
import GuardedSteps.Text.CharacterName.Alphabets
import GuardedSteps.Text.CharacterName.Antiquity
import GuardedSteps.Text.CharacterName.EastAsia
import GuardedSteps.Text.CharacterName.Hangul
import GuardedSteps.Text.CharacterName.Hieroglyphs
import GuardedSteps.Text.CharacterName.Notations
import GuardedSteps.Text.CharacterName.Pictures
import GuardedSteps.Text.CharacterName.Run
import GuardedSteps.Text.CharacterName.Signs
import GuardedSteps.Text.CharacterName.Symbols
import GuardedSteps.Text.Digit
import GuardedSteps.Text.Hexadecimal
import GuardedSteps.Text.LetterCase
import GuardedSteps.Text.Name
import GuardedSteps.Text.Printable
import GuardedSteps.Text.Quoted
import GuardedSteps.Text.Word
import GuardedSteps.Validation.Complaint
import GuardedSteps.Validation.Field
import GuardedSteps.Validation.WholeText
import GuardedSteps.Value.Basic
import GuardedSteps.Value.Text
import GuardedSteps.Variables
import GuardedSteps.Proofs.Comparison.Fit
import GuardedSteps.Proofs.Number.Form
import GuardedSteps.Proofs.Number.Integer
import GuardedSteps.Proofs.Comparison.Exactness
import GuardedSteps.Proofs.Run.Chronicle
import GuardedSteps.Proofs.Run.Register
import GuardedSteps.Proofs.Run.Cancellation
import GuardedSteps.Proofs.Phrase.Lead
import GuardedSteps.Proofs.Run.Background
import GuardedSteps.Proofs.Run.Arrivals
import GuardedSteps.Proofs.Run.Escape
import GuardedSteps.Proofs.Run.Made
import GuardedSteps.Proofs.Guard.Runnable
import GuardedSteps.Proofs.Phrase.Remainder
import GuardedSteps.Proofs.Run.Nesting
import GuardedSteps.Proofs.Number.Positive
import GuardedSteps.Proofs.Run.Calls
import GuardedSteps.Proofs.Run.Polls
import GuardedSteps.Proofs.Guard.Classification
import GuardedSteps.Proofs.Number.Difference
import GuardedSteps.Proofs.Run.Deadline
import GuardedSteps.Proofs.Run.Progress
import GuardedSteps.Proofs.Phrase.Composition
import GuardedSteps.Proofs.Run.Conjunction
import GuardedSteps.Proofs.Number.Nearest
import GuardedSteps.Proofs.Number.ReadBack
import GuardedSteps.Proofs.Run.SelfCondition
import GuardedSteps.Proofs.Number.Order
import GuardedSteps.Proofs.Comparison.Flag
import GuardedSteps.Proofs.Comparison.Containment
import GuardedSteps.Proofs.Comparison.Datum
import GuardedSteps.Proofs.Comparison.Reflexivity
import GuardedSteps.Proofs.Run.Comparable
import GuardedSteps.Proofs.Resolution
import GuardedSteps.Proofs.Run.Neutrality
import GuardedSteps.Proofs.Variables
import GuardedSteps.Proofs.Guard.Timings
