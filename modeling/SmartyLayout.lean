import SmartyLayout.Main
import SmartyLayout.Proofs.Content
import SmartyLayout.Proofs.Nesting
import SmartyLayout.Proofs.Spacing
import SmartyLayout.Server.Wire
import SmartyLayout.Proofs.Parts
import SmartyLayout.Proofs.Reflow
import SmartyLayout.Proofs.TagMachine
import SmartyLayout.Proofs.Flush
import SmartyLayout.Proofs.Idempotence
import SmartyLayout.Proofs.SecondPass
import SmartyLayout.Proofs.Alignment
import SmartyLayout.Proofs.Grammar
import SmartyLayout.Proofs.Partition
import SmartyLayout.Proofs.MarkedLiterals
import SmartyLayout.Proofs.MarkedReading
import SmartyLayout.Proofs.MarkedTags
import SmartyLayout.Proofs.Unmarking
import SmartyLayout.Proofs.Integrity
import SmartyLayout.Proofs.RoundTrip
import SmartyLayout.Proofs.LineEnds
import SmartyLayout.Proofs.Verbatim
import SmartyLayout.Proofs.Restoring
import SmartyLayout.Proofs.Positions
import SmartyLayout.Proofs.RangeEndings
import SmartyLayout.Proofs.Edits
import SmartyLayout.Proofs.Sessions
import SmartyLayout.Proofs.DocumentEndings
import SmartyLayout.Proofs.Detection
import SmartyLayout.Proofs.Batches
import SmartyLayout.Proofs.Tokenization
import SmartyLayout.Proofs.SameLine
import SmartyLayout.Proofs.Margins
import SmartyLayout.Proofs.Tidying
import SmartyLayout.Proofs.EmbeddedCode
import SmartyLayout.Proofs.LineRanges
import SmartyLayout.Proofs.Discovery
import SmartyLayout.Proofs.Origins
import SmartyLayout.Proofs.Unterminated
import SmartyLayout.Proofs.TagNames
import SmartyLayout.Proofs.Seeking
