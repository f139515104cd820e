import StepFlow.Command
import StepFlow.Files
import StepFlow.Main
import StepFlow.Proofs.Blame
import StepFlow.Proofs.Composition
import StepFlow.Proofs.Contract
import StepFlow.Proofs.DeckCommand
import StepFlow.Proofs.DeckGrammar
import StepFlow.Proofs.DeckLoading
import StepFlow.Proofs.DeckPhases
import StepFlow.Proofs.DeclarationGrammar
import StepFlow.Proofs.Forking
import StepFlow.Proofs.HandOver
import StepFlow.Proofs.Importing
import StepFlow.Proofs.Insertion
import StepFlow.Proofs.Mapping
import StepFlow.Proofs.RegisteredDeck
import StepFlow.Proofs.Registration
import StepFlow.Proofs.Resolution
import StepFlow.Proofs.Threading
import StepFlow.Proofs.Visibility
import StepFlow.Proofs.Arity
import StepFlow.Proofs.Decorated
import StepFlow.Proofs.PublishedSignature
import StepFlow.Proofs.Admission
import StepFlow.Proofs.EnvironmentBinding
import StepFlow.Proofs.Commutation
import StepFlow.Proofs.Discreet
import StepFlow.Proofs.LetterCase
import StepFlow.Proofs.Lowercase
import StepFlow.Proofs.ReferenceGrammar
import StepFlow.Proofs.RegistryHistory
import StepFlow.Proofs.DeckNormalForm
import StepFlow.Proofs.Items
import StepFlow.Proofs.ShapeChecks
import StepFlow.Proofs.GivenArguments
import StepFlow.Proofs.PartialEnvironment
