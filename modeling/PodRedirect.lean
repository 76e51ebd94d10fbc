import PodRedirect.Proofs.Log
import PodRedirect.Main
import PodRedirect.Proofs.Table.Teardown
import PodRedirect.Proofs.Traffic.Outbound
import PodRedirect.Proofs.Table.Cutover
import PodRedirect.Proofs.Table.Filters
import PodRedirect.Proofs.Script
import PodRedirect.Proofs.Run
import PodRedirect.Proofs.Preview
import PodRedirect.Proofs.Table.Dump
import PodRedirect.Proofs.Table.Scan
import PodRedirect.Proofs.Port.Appending
import PodRedirect.Proofs.Port.Spelling
import PodRedirect.Proofs.Argument
import PodRedirect.Proofs.Validation
import PodRedirect.Proofs.Backend.Pair
import PodRedirect.Proofs.Backend.Detect
import PodRedirect.Proofs.Backend.Flavour
import PodRedirect.Proofs.DualStack
import PodRedirect.Proofs.CommandLine.Removal
import PodRedirect.Proofs.CommandLine.Rejection
import PodRedirect.Proofs.CommandLine.Fallback
import PodRedirect.Proofs.CommandLine.Namespace
import PodRedirect.Proofs.Warning
import PodRedirect.Proofs.Mark
import PodRedirect.Proofs.CommandLine.Precedence
import PodRedirect.Proofs.Port.Overlong
import PodRedirect.Proofs.Policy.Families
import PodRedirect.Proofs.Setting.Port
import PodRedirect.Proofs.Setting.Coercion
import PodRedirect.Proofs.CommandLine.List
import PodRedirect.Proofs.Backend.Detection
import PodRedirect.Proofs.Executor.Applied
