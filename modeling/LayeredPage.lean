import LayeredPage.Inspect.Browser
import LayeredPage.Memory.Host
import LayeredPage.Proofs.Advancing
import LayeredPage.Proofs.Agreement
import LayeredPage.Proofs.Batches
import LayeredPage.Proofs.Bystanders
import LayeredPage.Proofs.Choices
import LayeredPage.Proofs.Clipping
import LayeredPage.Proofs.Coalescing
import LayeredPage.Proofs.Departures
import LayeredPage.Proofs.Dispatches
import LayeredPage.Proofs.Escaping
import LayeredPage.Proofs.Eviction
import LayeredPage.Proofs.Extrapolation
import LayeredPage.Proofs.Forest
import LayeredPage.Proofs.Inventory
import LayeredPage.Proofs.Kinship
import LayeredPage.Proofs.Lending
import LayeredPage.Proofs.Overflow
import LayeredPage.Proofs.Pacing
import LayeredPage.Proofs.Polling
import LayeredPage.Proofs.Protocol
import LayeredPage.Proofs.Recycling
import LayeredPage.Proofs.Relinking
import LayeredPage.Proofs.Rendering
import LayeredPage.Proofs.Reporting
import LayeredPage.Proofs.Retrying
import LayeredPage.Proofs.Rollback
import LayeredPage.Proofs.Scrolling
import LayeredPage.Proofs.Selecting
import LayeredPage.Proofs.Severing
import LayeredPage.Proofs.Shrinking
import LayeredPage.Proofs.Sizing
import LayeredPage.Proofs.Stopping
import LayeredPage.Proofs.Stripping
import LayeredPage.Proofs.TabOrder
import LayeredPage.Proofs.Tenure
import LayeredPage.Proofs.Touches
import LayeredPage.Proofs.Typefaces
import LayeredPage.Proofs.Vacating
import LayeredPage.Wire.InterruptReader
