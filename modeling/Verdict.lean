import Verdict.Calendar.CivilDate
import Verdict.Calendar.DateFields
import Verdict.Calendar.DateLayout
import Verdict.Calendar.Moment
import Verdict.Calendar.WrittenDate
import Verdict.Errors.Error
import Verdict.Errors.ErrorDebug
import Verdict.Errors.ErrorTree
import Verdict.Errors.KeyedErrors
import Verdict.Errors.MessageTemplate
import Verdict.Errors.Violation
import Verdict.Formats.Colour
import Verdict.Formats.Encoding
import Verdict.Formats.Format
import Verdict.Formats.HostName
import Verdict.Formats.Identifier
import Verdict.Formats.InternationalName
import Verdict.Formats.NameSubstitution
import Verdict.Formats.NetworkAddress
import Verdict.Formats.NumberedDocument
import Verdict.Formats.Punycode
import Verdict.Formats.WebAddress
import Verdict.Formats.WrittenNumber
import Verdict.Json.JsonReader
import Verdict.Json.JsonText
import Verdict.Json.JsonTree
import Verdict.Numbers.Binary64
import Verdict.Numbers.DecimalText
import Verdict.Numbers.FloatText
import Verdict.Numbers.NearestRounding
import Verdict.Numbers.ShortestDigits
import Verdict.Patterns.Pattern
import Verdict.Patterns.PatternMeaning
import Verdict.Patterns.PatternReader
import Verdict.Patterns.PatternSize
import Verdict.Patterns.PatternText
import Verdict.Patterns.PropertyName
import Verdict.Patterns.SetReader
import Verdict.Patterns.ShortSet
import Verdict.Patterns.WrittenPattern
import Verdict.Proofs.CollectedErrors
import Verdict.Proofs.CompositionalRuns
import Verdict.Proofs.FaultPropagation
import Verdict.Proofs.LastWrite
import Verdict.Proofs.MapKeyForms
import Verdict.Proofs.MapOutcome
import Verdict.Proofs.StructOutcome
import Verdict.Proofs.WellFormedErrors
import Verdict.Rules.Judgement
import Verdict.Rules.Leaf
import Verdict.Rules.LeafTest
import Verdict.Rules.Rule
import Verdict.Rules.RuleDebug
import Verdict.Store.SortedEntries
import Verdict.Text.ByteRanges
import Verdict.Text.LossyUtf8
import Verdict.Text.QuotedText
import Verdict.Text.Segments
import Verdict.Unicode.BinaryProperty
import Verdict.Unicode.BlanksAndDigits
import Verdict.Unicode.CombiningClass
import Verdict.Unicode.Composition
import Verdict.Unicode.Direction
import Verdict.Unicode.Edition
import Verdict.Unicode.GeneralCategory
import Verdict.Unicode.Joining
import Verdict.Unicode.LetterCase
import Verdict.Unicode.Property
import Verdict.Unicode.ScalarSet
import Verdict.Unicode.Script
import Verdict.Unicode.Segmentation
import Verdict.Unicode.TableText
import Verdict.Validation.Check
import Verdict.Validation.Context
import Verdict.Validation.Journal
import Verdict.Validation.MapKeys
import Verdict.Validation.StructFields
import Verdict.Values.FieldPath
import Verdict.Values.MapKey
import Verdict.Values.Value
import Verdict.Values.ValueEquality
import Verdict.Values.ValueText
import Verdict.Proofs.FlatText
import Verdict.Proofs.FieldPaths
import Verdict.Proofs.TraversalAgreement
import Verdict.Proofs.DottedBindings
import Verdict.Proofs.EqualValues
import Verdict.Proofs.OutcomeShape
import Verdict.Proofs.EqualityCongruence
import Verdict.Proofs.EqualDocuments
import Verdict.Proofs.EqualErrors
import Verdict.Proofs.WrappedRules
import Verdict.Proofs.FlatRules
import Verdict.Proofs.BindingOrder
import Verdict.Proofs.TraversalMoves
import Verdict.Proofs.TraversalLog
import Verdict.Proofs.ValidationLog
import Verdict.Proofs.ContextChains
import Verdict.Proofs.EmptyValues
import Verdict.Proofs.EachOutcome
import Verdict.Proofs.TypedMaps
import Verdict.Proofs.KeyTexts
import Verdict.Proofs.TemplateParts
import Verdict.Proofs.FieldPlaces
import Verdict.Proofs.PathSteps
import Verdict.Proofs.SelfValidation
import Verdict.Proofs.Conversions
import Verdict.Proofs.ErrorOverrides
import Verdict.Proofs.ByteOrder
import Verdict.Proofs.KeyedHistory
import Verdict.Proofs.DocumentRoundTrip
import Verdict.Proofs.Thresholds
import Verdict.Proofs.Multiples
import Verdict.Proofs.PartialEquivalence
import Verdict.Proofs.Lengths
import Verdict.Proofs.ParameterHistory
import Verdict.Proofs.CardNumbers
import Verdict.Proofs.PatternMatches
import Verdict.Proofs.PatternLanguage
import Verdict.Proofs.HostNames
import Verdict.Proofs.NumberGrammars
