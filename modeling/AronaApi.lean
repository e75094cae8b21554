import AronaApi.Access.CachedHashes
import AronaApi.Access.Privileges
import AronaApi.Access.Revocation
import AronaApi.AsyncTask.Terminal
import AronaApi.Batch.Refinement
import AronaApi.Billing.Conservation
import AronaApi.Billing.Overdraft
import AronaApi.Billing.Period
import AronaApi.Channels.Agreement
import AronaApi.Channels.AutoGroups
import AronaApi.Channels.Disabling
import AronaApi.Channels.Upkeep
import AronaApi.Claude.Upstreams
import AronaApi.ClaudeChannel.Agreement
import AronaApi.Distributor.SameModel
import AronaApi.Fetch.Spellings
import AronaApi.FileSource.OwnData
import AronaApi.Gemini.Completeness
import AronaApi.Gemini.FromOpenAI
import AronaApi.Gemini.StreamEnd
import AronaApi.History.ToChat
import AronaApi.MjProxy.Refunds
import AronaApi.Pricing.Parity
import AronaApi.Pricing.UsedQuota
import AronaApi.Purchase.Concurrency
import AronaApi.RateLimit.Agreement
import AronaApi.RateLimit.TokenBucket
import AronaApi.Realtime.Charges
import AronaApi.Recharge.Completion
import AronaApi.Recharge.Once
import AronaApi.Recharge.OrderLock
import AronaApi.Redeem.Once
import AronaApi.Relay.BodyStorage
import AronaApi.Relay.GroupRatio
import AronaApi.Relay.MappingChain
import AronaApi.Relay.ResponsesBilling
import AronaApi.Relay.TaskRatios
import AronaApi.Responses.Echo
import AronaApi.Responses.InputItems
import AronaApi.SecondFactor.BackupCodes
import AronaApi.SecondFactor.Lockout
import AronaApi.Stream.Noticed
import AronaApi.Stream.Thinking
import AronaApi.Subscription.ExpiryFrame
import AronaApi.Subscription.RefundAtomicity
import AronaApi.Subscription.ResetProgress
import AronaApi.Subscription.Sequence
import AronaApi.SystemTask.Outcome
import AronaApi.User.Quota
