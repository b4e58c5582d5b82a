import SuiteAudit.Disk.Edit
import SuiteAudit.Main
import SuiteAudit.Proofs.CommandLine.Writing
import SuiteAudit.Proofs.IgnoreSet
import SuiteAudit.Proofs.Report.CoveringBlocks
import SuiteAudit.Proofs.Report.ReadBack
import SuiteAudit.Proofs.Report.Totals
import SuiteAudit.Proofs.Run.FailingSink
import SuiteAudit.Proofs.Run.Growth
import SuiteAudit.Proofs.Run.LineEnds
import SuiteAudit.Proofs.Run.Presentation
import SuiteAudit.Proofs.Suite.BlockScan
import SuiteAudit.Proofs.Suite.Declaration
import SuiteAudit.Proofs.Suite.Relisting
import SuiteAudit.Proofs.Suite.Separator
import SuiteAudit.Proofs.Suite.UsualLayout
