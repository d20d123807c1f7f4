import FieldRules.Main
import FieldRules.RuleFile.Validation
import FieldRules.Schema.Description
import FieldRules.Proofs.CompiledChain
import FieldRules.Proofs.FieldValue
import FieldRules.Proofs.RequiredValue
import FieldRules.Proofs.TokenOrder
import FieldRules.Proofs.StrictCompilation
import FieldRules.Proofs.IgnoredTokens
import FieldRules.Proofs.PossibleMessages
import FieldRules.Proofs.FieldReads
import FieldRules.Proofs.InsertedRequired
import FieldRules.Proofs.SharedSchemas
import FieldRules.Proofs.CleanTexts
import FieldRules.Proofs.AssembledVectors
import FieldRules.Proofs.CleanedValue
import FieldRules.Proofs.ReturnedKeys
import FieldRules.Proofs.FieldOrder
import FieldRules.Proofs.CommandOutcome
import FieldRules.Proofs.GivenSwitches
import FieldRules.Proofs.ReadValues
import FieldRules.Proofs.DepthLimit
import FieldRules.Proofs.WrittenTokens
import FieldRules.Proofs.WrittenValues
import FieldRules.Proofs.AlikeRuns
import FieldRules.Proofs.PipedSanitizing
import FieldRules.Proofs.KeptSchemas
import FieldRules.Proofs.JoinedSchemas
import FieldRules.Proofs.FilledValue
import FieldRules.Proofs.RepeatedRun
import FieldRules.Proofs.MergedParts
import FieldRules.Proofs.PresenceRules
import FieldRules.Proofs.InsertedChecks
import FieldRules.Proofs.RedactedLog
import FieldRules.Proofs.NearestIntegers
import FieldRules.Proofs.WholeNumbers
import FieldRules.Proofs.IntegerBounds
import FieldRules.Proofs.AskedRules
import FieldRules.Proofs.ReachedDefaults
import FieldRules.Proofs.TokenAccounts
import FieldRules.Proofs.WellFormedChains
import FieldRules.Proofs.WrittenRules
import FieldRules.Proofs.TwoNotations
import FieldRules.Proofs.BrokenFields
import FieldRules.Proofs.SurvivingTags
import FieldRules.Proofs.MergedKeys
import FieldRules.Proofs.SpelledValues
import FieldRules.Proofs.WrappedObjects
import FieldRules.Proofs.EmailAddresses
import FieldRules.Proofs.ReadDigits
import FieldRules.Proofs.CalendarDays
import FieldRules.Proofs.Timestamps
import FieldRules.Proofs.DateTexts
import FieldRules.Proofs.SameValues
import FieldRules.Proofs.MatchingFields
import FieldRules.Proofs.RefusedInputs
