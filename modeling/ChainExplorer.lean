import ChainExplorer.Files.Tree
import ChainExplorer.Main
import ChainExplorer.Proofs.Explorer.Debounce
import ChainExplorer.Proofs.Explorer.Display
import ChainExplorer.Proofs.Explorer.Line
import ChainExplorer.Proofs.Explorer.Loading
import ChainExplorer.Proofs.Explorer.Navigation
import ChainExplorer.Proofs.Search.Latest
import ChainExplorer.Terminal.Event
import ChainExplorer.Proofs.Explorer.Workers
import ChainExplorer.Proofs.Explorer.Dropped
import ChainExplorer.Proofs.Explorer.UpperCase
import ChainExplorer.Proofs.Explorer.Batching
import ChainExplorer.Proofs.Explorer.Targets
import ChainExplorer.Proofs.Explorer.Quiescence
import ChainExplorer.Proofs.Explorer.Failures
import ChainExplorer.Proofs.Terminal.Typing
import ChainExplorer.Proofs.Json.Grammar
import ChainExplorer.Proofs.Json.Printing
import ChainExplorer.Proofs.Json.Skipping
import ChainExplorer.Proofs.Search.WireFormat
import ChainExplorer.Proofs.Formatter.Interleaving
import ChainExplorer.Proofs.Config.RoundTrip
import ChainExplorer.Proofs.View.Unusable
import ChainExplorer.Proofs.View.Rendering
import ChainExplorer.Proofs.Screen.Redrawing
import ChainExplorer.Proofs.Screen.Document
import ChainExplorer.Proofs.Screen.SearchBar
import ChainExplorer.Proofs.Screen.Painting
import ChainExplorer.Proofs.Screen.ValueColumn
import ChainExplorer.Proofs.Formatter.Measurements
import ChainExplorer.Proofs.Explorer.Launch
import ChainExplorer.Proofs.Search.Address
