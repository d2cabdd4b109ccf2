import TrainFactory.Runtime.Proofs.LockOrderProofs
import TrainFactory.Sync.Proofs.BatchClaimsProofs
import TrainFactory.Sync.Proofs.PendingRecordsProofs
import TrainFactory.Sync.Proofs.SampleTotalsProofs
import TrainFactory.Sync.Proofs.SampleLedgerProofs
import TrainFactory.Sync.Proofs.ClaimOwnershipProofs
import TrainFactory.Sync.Proofs.DeletionProofs
import TrainFactory.Sync.Proofs.RecoveryProofs
import TrainFactory.Sync.Proofs.StorageProofs
import TrainFactory.Sync.Proofs.BatchFilesProofs
import TrainFactory.Gpu.Proofs.LeaseProofs
import TrainFactory.Gpu.Proofs.AdmissionProofs
import TrainFactory.Gpu.Proofs.ExplicitRequestProofs
import TrainFactory.Admission.Proofs.ServiceProofs
import TrainFactory.Training.Proofs.FencingProofs
import TrainFactory.Training.Proofs.LifecycleProofs
import TrainFactory.Dataset.Proofs.FenceProofs
import TrainFactory.Registry.Proofs.LatestProofs
import TrainFactory.Registry.Proofs.DeleteModelProofs
import TrainFactory.Milvus.Proofs.OwnershipProofs
import TrainFactory.Deployment.Proofs.AdaptersProofs
import TrainFactory.Deployment.Proofs.ClaimsProofs
import TrainFactory.Deployment.Proofs.ConfigProofs
import TrainFactory.Deployment.Proofs.RecoveryProofs
import TrainFactory.Deployment.Proofs.ReplicaPlannerProofs
import TrainFactory.Generation.Proofs.PublicationProofs
import TrainFactory.Generation.Proofs.DeletionProofs
import TrainFactory.Generation.Proofs.PosNegProofs
import TrainFactory.Generation.Proofs.QaProducerProofs
import TrainFactory.Generation.Proofs.TrainingValueProofs
import TrainFactory.ModelConfig.Proofs.DefaultsProofs
import TrainFactory.Auth.Proofs.TokensProofs
import TrainFactory.Evaluation.Proofs.DurableResultsProofs
import TrainFactory.DeepEvaluation.Proofs.ResumeProofs
import TrainFactory.DeepEvaluation.Proofs.RankingMetricsProofs
import TrainFactory.Download.Proofs.BilledProofs
import TrainFactory.DatasetDeletion.Proofs.ExclusionProofs
import TrainFactory.Outbound.Proofs.PinningProofs
import TrainFactory.Inference.Proofs.OwnershipProofs
import TrainFactory.Sync.Proofs.ToggleProofs
import TrainFactory.Sync.Proofs.RollbackProofs
import TrainFactory.SyncTraining.Proofs.TrackingProofs
import TrainFactory.SyncTraining.Proofs.OutputDirsProofs
import TrainFactory.Sync.Proofs.DocumentsProofs
import TrainFactory.Sync.Proofs.IdentityProofs
import TrainFactory.Sync.Proofs.AdapterSplitProofs
import TrainFactory.Sync.Proofs.FinalizationProofs
import TrainFactory.SyncTraining.Proofs.TargetDatasetsProofs
import TrainFactory.Sync.Proofs.RotationProofs
import TrainFactory.Sync.Proofs.ExternalClientProofs
import TrainFactory.Embedding.Proofs.AgreementProofs
import TrainFactory.Embedding.Proofs.MarginsProofs
import TrainFactory.Embedding.Proofs.NegativesProofs
import TrainFactory.Data.Proofs.MixedSourcesProofs
import TrainFactory.Data.Proofs.RankedPreferenceProofs
import TrainFactory.Data.Proofs.InstructionProofs
import TrainFactory.Generation.Proofs.EvalDataProofs
import TrainFactory.Runtime.Proofs.DependencyGuardProofs
import TrainFactory.Evaluation.Proofs.ResumeStateProofs
import TrainFactory.Compose.Proofs.SecretPathsProofs
import TrainFactory.PostProcess.Proofs.DedupProofs
import TrainFactory.Lineage.Proofs.GraphProofs
import TrainFactory.Paths.Proofs.MappingProofs
import TrainFactory.Diagnostics.Proofs.PublicProofs
import TrainFactory.Sync.Proofs.JsonSizeProofs
import TrainFactory.Idempotency.Proofs.CacheProofs
import TrainFactory.Auth.Proofs.AccountsProofs
import TrainFactory.Compose.Proofs.SafeDownProofs
import TrainFactory.Generation.Proofs.RerankProofs
import TrainFactory.SyncTraining.Proofs.SchedulerProofs
import TrainFactory.Sync.Proofs.HistoryProofs
import TrainFactory.Sync.Proofs.TenantProofs
