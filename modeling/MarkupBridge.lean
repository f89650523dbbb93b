import MarkupBridge.Registry
import MarkupBridge.Proofs.Conservation
import MarkupBridge.Proofs.Fallbacks
import MarkupBridge.Proofs.Isolation
import MarkupBridge.Proofs.Nesting
import MarkupBridge.Proofs.Occurrences
import MarkupBridge.Proofs.References
import MarkupBridge.Proofs.Separation
import MarkupBridge.Proofs.Styling
import MarkupBridge.Proofs.Tables
import MarkupBridge.Proofs.Warnings
import MarkupBridge.Proofs.LineForm
import MarkupBridge.Proofs.WellFormed
import MarkupBridge.Proofs.LineBreaks
import MarkupBridge.Proofs.CodeBlocks
import MarkupBridge.Proofs.Toggles
import MarkupBridge.Proofs.Recovery
import MarkupBridge.Proofs.InlineImages
import MarkupBridge.Proofs.Boundaries
import MarkupBridge.Proofs.Segments
import MarkupBridge.Proofs.ItemLines
import MarkupBridge.Proofs.Enclosure
import MarkupBridge.Proofs.Cells
import MarkupBridge.Proofs.Destinations
import MarkupBridge.Proofs.Extensions
import MarkupBridge.Proofs.Progress
