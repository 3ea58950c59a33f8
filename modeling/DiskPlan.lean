import DiskPlan.DeviceListing.Export
import DiskPlan.Main
import DiskPlan.Proofs.Outcome
import DiskPlan.Proofs.ContentGrammar
import DiskPlan.Proofs.ContentAnswers
import DiskPlan.Proofs.Reading
import DiskPlan.Proofs.Change
import DiskPlan.Proofs.Session
import DiskPlan.Proofs.Placement
import DiskPlan.Proofs.Resolution
import DiskPlan.Proofs.UsableSpace
import DiskPlan.Proofs.Attachment
import DiskPlan.Proofs.Stages
import DiskPlan.Proofs.VolumeGroups
import DiskPlan.Proofs.Volumes
import DiskPlan.Proofs.Refusal
import DiskPlan.Proofs.Stacking
import DiskPlan.Proofs.Capacity
import DiskPlan.Proofs.Masking
import DiskPlan.Proofs.Passphrases
import DiskPlan.Proofs.Secrecy
import DiskPlan.Proofs.Overflow
import DiskPlan.Proofs.Overlong
import DiskPlan.Proofs.Leftovers
import DiskPlan.Proofs.Actions
import DiskPlan.Proofs.PlannedDisks
import DiskPlan.Proofs.PartitionPaths
import DiskPlan.Proofs.Numbering
import DiskPlan.Proofs.Layouts
import DiskPlan.Proofs.Tables
import DiskPlan.Proofs.DiskNames
import DiskPlan.Proofs.Reordering
import DiskPlan.Proofs.RepeatedDisks
import DiskPlan.Proofs.VolumePaths
import DiskPlan.Proofs.GroupInitialization
import DiskPlan.Proofs.Announcements
import DiskPlan.Proofs.JsonTokens
import DiskPlan.Proofs.JsonTexts
import DiskPlan.Proofs.JsonValues
import DiskPlan.Proofs.LayoutValues
import DiskPlan.Proofs.ProbeAgreement
import DiskPlan.Proofs.StoredPlans
import DiskPlan.Proofs.PlanSteps
import DiskPlan.Proofs.StageEvents
import DiskPlan.Proofs.PlanLog
import DiskPlan.Proofs.Installations
import DiskPlan.Proofs.Conservation
import DiskPlan.Proofs.AskedPartitions
import DiskPlan.Proofs.CommandRuns
import DiskPlan.Proofs.ToldOutcomes
import DiskPlan.Proofs.ModestTokens
import DiskPlan.Proofs.BoundedDevices
import DiskPlan.Proofs.ToldPlans
import DiskPlan.Proofs.FieldGrammar
import DiskPlan.Proofs.SuffixAnswers
import DiskPlan.Proofs.ProbedSizes
import DiskPlan.Proofs.MountedKeys
import DiskPlan.Proofs.TokenGrammar
import DiskPlan.Proofs.PositionTexts
import DiskPlan.Proofs.Moves
import DiskPlan.Proofs.NewPartitions
import DiskPlan.Proofs.Deletions
import DiskPlan.Proofs.ResolvedPaths
import DiskPlan.Proofs.StoredSettings
import DiskPlan.Proofs.VolumeNames
import DiskPlan.Proofs.ListedDevices
import DiskPlan.Proofs.ListedDisks
import DiskPlan.Proofs.ListedExtents
import DiskPlan.Proofs.FaithfulPlans
import DiskPlan.Proofs.StepPercents
import DiskPlan.Proofs.FlagLists
import DiskPlan.Proofs.PartitionNaming
import DiskPlan.Proofs.Mebibytes
