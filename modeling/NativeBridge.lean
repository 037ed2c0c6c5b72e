import NativeBridge.Abi
import NativeBridge.Boundary
import NativeBridge.Call
import NativeBridge.CallingConvention
import NativeBridge.Compiler.Library
import NativeBridge.Compiler.LibraryCompiler
import NativeBridge.Compiler.Service
import NativeBridge.Config.Decode
import NativeBridge.Config.Load
import NativeBridge.Config.Naming
import NativeBridge.Config.Project
import NativeBridge.Description
import NativeBridge.Diagnostic
import NativeBridge.Error
import NativeBridge.FileSystem
import NativeBridge.FloatingPoint
import NativeBridge.Heap
import NativeBridge.HostClass
import NativeBridge.HostCode
import NativeBridge.HostType
import NativeBridge.Integer
import NativeBridge.LibraryLoader
import NativeBridge.Marshal
import NativeBridge.MarshalPlan
import NativeBridge.Member
import NativeBridge.Memory
import NativeBridge.Naming.Format
import NativeBridge.Naming.Plan
import NativeBridge.Naming.Rules
import NativeBridge.Naming.Template
import NativeBridge.Outcome
import NativeBridge.OutputMode
import NativeBridge.Path
import NativeBridge.Proofs.BorrowBalance
import NativeBridge.Proofs.BoundarySignatures
import NativeBridge.Proofs.BufferCalls
import NativeBridge.Proofs.ClosureAddresses
import NativeBridge.Proofs.CollectedDiagnostics
import NativeBridge.Proofs.ConfiguredSessions
import NativeBridge.Proofs.ConstructedInstances
import NativeBridge.Proofs.ConstructorSymbols
import NativeBridge.Proofs.CopiedReceivers
import NativeBridge.Proofs.Courses
import NativeBridge.Proofs.CutSearch
import NativeBridge.Proofs.DefinitionOrder
import NativeBridge.Proofs.DiagnosticLines
import NativeBridge.Proofs.Discriminants
import NativeBridge.Proofs.EnclosingDirectories
import NativeBridge.Proofs.FreedBorrows
import NativeBridge.Proofs.HandleLedger
import NativeBridge.Proofs.HandleRuns
import NativeBridge.Proofs.HandleTable
import NativeBridge.Proofs.HeldInstances
import NativeBridge.Proofs.HollowRuns
import NativeBridge.Proofs.HostSteps
import NativeBridge.Proofs.InstanceClasses
import NativeBridge.Proofs.Journal
import NativeBridge.Proofs.JournalLaw
import NativeBridge.Proofs.KeptLog
import NativeBridge.Proofs.KeptTexts
import NativeBridge.Proofs.LentBuffers
import NativeBridge.Proofs.LibraryTargets
import NativeBridge.Proofs.LibraryTrace
import NativeBridge.Proofs.MemberTables
import NativeBridge.Proofs.MergedSettings
import NativeBridge.Proofs.Moments
import NativeBridge.Proofs.NativeTexts
import NativeBridge.Proofs.NestedReceivers
import NativeBridge.Proofs.OutputModeLock
import NativeBridge.Proofs.OwnInstances
import NativeBridge.Proofs.PathLookup
import NativeBridge.Proofs.PendingFault
import NativeBridge.Proofs.PlainValues
import NativeBridge.Proofs.ProjectSearch
import NativeBridge.Proofs.RawValues
import NativeBridge.Proofs.ReceiverClasses
import NativeBridge.Proofs.RefusedArguments
import NativeBridge.Proofs.RegistrationLedger
import NativeBridge.Proofs.RelativeSearch
import NativeBridge.Proofs.RequestsInTurn
import NativeBridge.Proofs.ReturnedTexts
import NativeBridge.Proofs.RunGrowth
import NativeBridge.Proofs.ServiceLog
import NativeBridge.Proofs.ServiceMaps
import NativeBridge.Proofs.SessionLifecycle
import NativeBridge.Proofs.SessionOperations
import NativeBridge.Proofs.SessionOrder
import NativeBridge.Proofs.SessionSteps
import NativeBridge.Proofs.SessionTransitions
import NativeBridge.Proofs.SettingPrecedence
import NativeBridge.Proofs.SharedInstances
import NativeBridge.Proofs.StoredValueRuns
import NativeBridge.Proofs.StoredValues
import NativeBridge.Proofs.SymbolOperations
import NativeBridge.Proofs.SymbolPlans
import NativeBridge.Proofs.SymbolSpelling
import NativeBridge.Proofs.TemplateChecks
import NativeBridge.Proofs.TemplateGrammar
import NativeBridge.Proofs.TextArguments
import NativeBridge.Proofs.TextCut
import NativeBridge.Proofs.TextSearch
import NativeBridge.Proofs.ThunkAnswers
import NativeBridge.Proofs.ThunkCalls
import NativeBridge.Proofs.TraceLaw
import NativeBridge.Proofs.TupleConversions
import NativeBridge.Proofs.TypeBinding
import NativeBridge.Proofs.TypeNumbers
import NativeBridge.Proofs.TypedMembers
import NativeBridge.Proofs.UndisturbedRuns
import NativeBridge.Proofs.UneditedBuffers
import NativeBridge.Proofs.UnusedHandle
import NativeBridge.Proofs.UsableNaming
import NativeBridge.Proofs.Utf8RoundTrip
import NativeBridge.Proofs.ValueClasses
import NativeBridge.Proofs.WaitingLibraries
import NativeBridge.Proofs.WrapRoundTrip
import NativeBridge.Proofs.WriteBacks
import NativeBridge.Registry
import NativeBridge.Session.Basic
import NativeBridge.Session.Run
import NativeBridge.Session.Setup
import NativeBridge.Session.Symbols
import NativeBridge.Signature
import NativeBridge.Text.Blank
import NativeBridge.Text.Case
import NativeBridge.Text.CaseTable
import NativeBridge.Text.Hexadecimal
import NativeBridge.Text.Identifier
import NativeBridge.Text.Numeral
import NativeBridge.Text.Printable
import NativeBridge.Text.Quoted
import NativeBridge.Text.Search
import NativeBridge.Text.Utf8
import NativeBridge.Thunk
import NativeBridge.Toml.Document
import NativeBridge.Toml.Scalar
import NativeBridge.Toml.Scan
import NativeBridge.Toml.Value
import NativeBridge.Value
import NativeBridge.Workbench.Classes
import NativeBridge.Workbench.Compilers
import NativeBridge.Workbench.Conversion
import NativeBridge.Workbench.Functions
import NativeBridge.Workbench.Inspection
import NativeBridge.Workbench.Members
import NativeBridge.Workbench.Operand
import NativeBridge.Workbench.Scenario.Bench
import NativeBridge.Workbench.Scenario.Calls
import NativeBridge.Workbench.Scenario.Places
import NativeBridge.Workbench.Scenario.Run
import NativeBridge.Workbench.Scenario.Sessions
import NativeBridge.Workbench.Scenario.Step
import NativeBridge.Workbench.Scenario.Vocabulary
import NativeBridge.Workbench.Script
import NativeBridge.World
import NativeBridge.Wrap
