import ArchiveCensus.Main
import ArchiveCensus.Service.Http
import ArchiveCensus.Proofs.Index.Chain
import ArchiveCensus.Proofs.Index.Lazy
import ArchiveCensus.Proofs.Index.Listed
import ArchiveCensus.Proofs.Index.Deadline
import ArchiveCensus.Proofs.Service.Whole
import ArchiveCensus.Proofs.Census.Intake
import ArchiveCensus.Proofs.Census.Report
import ArchiveCensus.Proofs.Census.Shuffle
import ArchiveCensus.Proofs.Census.Balance
import ArchiveCensus.Proofs.Index.Onward
import ArchiveCensus.Proofs.Service.Rejection
import ArchiveCensus.Proofs.Census.Ratio
import ArchiveCensus.Proofs.Census.Stable
import ArchiveCensus.Proofs.Service.Account
import ArchiveCensus.Proofs.Service.Fields
import ArchiveCensus.Proofs.Census.Dates
import ArchiveCensus.Proofs.Census.Membership
import ArchiveCensus.Proofs.Index.Phrase
import ArchiveCensus.Proofs.Census.Percentile
import ArchiveCensus.Proofs.Census.SharedNames
import ArchiveCensus.Proofs.Metadata.Repeated
import ArchiveCensus.Proofs.Metadata.WrittenOut
import ArchiveCensus.Proofs.Metadata.ToolDetail
import ArchiveCensus.Proofs.Metadata.FileName
import ArchiveCensus.Proofs.Index.Budget
import ArchiveCensus.Proofs.Service.Sizes
import ArchiveCensus.Proofs.Census.Mismatch
import ArchiveCensus.Proofs.Index.Answered
