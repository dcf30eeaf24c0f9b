import NtfsLogfile.Layout
import NtfsLogfile.Kernel
import NtfsLogfile.Validate
import NtfsLogfile.Mst
import NtfsLogfile.Load
import NtfsLogfile.Check
import NtfsLogfile.Proof.Header
import NtfsLogfile.Proof.RestartArea
import NtfsLogfile.Proof.ClientArray
import NtfsLogfile.Proof.Load
import NtfsLogfile.Proof.Scan
import NtfsLogfile.Proof.Check
import NtfsLogfile.Proof.Clean
import NtfsLogfile.Plain
import NtfsLogfile.Proof.Refinement
import NtfsLogfile.Proof.Allocation
