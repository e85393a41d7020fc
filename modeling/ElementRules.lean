import ElementRules.Model.Stored
import ElementRules.Proofs.EditLaws
import ElementRules.Proofs.Growth
import ElementRules.Proofs.History
import ElementRules.Proofs.Identities
import ElementRules.Proofs.Repair
import ElementRules.Proofs.Reports
import ElementRules.Proofs.Shape
import ElementRules.Proofs.Steering
import ElementRules.Proofs.Tolerance
import ElementRules.Settings.Load
import ElementRules.Settings.Stored
import ElementRules.Proofs.OptionEquality
import ElementRules.Proofs.Presence
import ElementRules.Proofs.Duplicates
import ElementRules.Proofs.ParameterNegation
import ElementRules.Proofs.IgnoringCase
import ElementRules.Proofs.WildcardSearch
import ElementRules.Proofs.FixedValues
import ElementRules.Proofs.Thousandths
import ElementRules.Proofs.Timeline
import ElementRules.Proofs.Moves
import ElementRules.Proofs.Copies
import ElementRules.Proofs.Inclusion
import ElementRules.Proofs.IntegerComparison
import ElementRules.Proofs.StoredElements
import ElementRules.Proofs.FewBeginnings
