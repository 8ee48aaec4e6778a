import ForwardingProxy.Build
import ForwardingProxy.FaultInjection
import ForwardingProxy.FileSystem.Tree
import ForwardingProxy.ForwardedCall
import ForwardingProxy.Dispatch.Factory
import ForwardingProxy.Dispatch.Value
import ForwardingProxy.Main
import ForwardingProxy.Proofs.Build.Output
import ForwardingProxy.Proofs.Classification.DispatchFunctions
import ForwardingProxy.Proofs.Classification.Handlers
import ForwardingProxy.Proofs.Classification.MarkerArguments
import ForwardingProxy.Proofs.Collection.Additions
import ForwardingProxy.Proofs.Collection.Attributes
import ForwardingProxy.Proofs.Collection.Bodies
import ForwardingProxy.Proofs.Collection.Conditions
import ForwardingProxy.Proofs.Collection.Constructors
import ForwardingProxy.Proofs.Collection.Imports
import ForwardingProxy.Proofs.CommandLine.Analysis
import ForwardingProxy.Proofs.Config.ReadBack
import ForwardingProxy.Proofs.Enumeration.Acceptance
import ForwardingProxy.Proofs.Enumeration.AutoBounds
import ForwardingProxy.Proofs.Enumeration.Order
import ForwardingProxy.Proofs.Enumeration.Respelling
import ForwardingProxy.Proofs.Generation.Faults
import ForwardingProxy.Proofs.Generation.Marks
import ForwardingProxy.Proofs.Generation.Rejection
import ForwardingProxy.Proofs.Layout.Indentation
import ForwardingProxy.Proofs.ModulePath
import ForwardingProxy.Proofs.Output.Place
import ForwardingProxy.Proofs.ProxySource.AccessorCalls
import ForwardingProxy.Proofs.ProxySource.CallNames
import ForwardingProxy.Proofs.ProxySource.ParameterNames
import ForwardingProxy.Proofs.Registry.GeneratedNames
import ForwardingProxy.Proofs.Registry.Lookup
import ForwardingProxy.Proofs.Resolution.Injectivity
import ForwardingProxy.Proofs.Resolution.Offenders
import ForwardingProxy.Proofs.Resolution.Rendering
import ForwardingProxy.Proofs.Source.Cut.Tokens
import ForwardingProxy.Proofs.Source.Receivers
import ForwardingProxy.Proofs.Source.TypeReading
import ForwardingProxy.Proofs.SymbolTable.CrateImports
import ForwardingProxy.Proofs.SymbolTable.RelativePaths
